import Vespid.Js

/-!
# What a toolset may contain

MCP servers and skill bundles as the payload schema has parsed them, and the two checks that a
toolset must pass.
-/

namespace Vespid.Api.Toolsets

inductive McpServerTransport where
  | stdio | http

structure McpServerConfig where
  name : String
  transport : McpServerTransport
  command : Option String
  args : Option (List String)
  env : Option (List (String × String))
  url : Option String
  headers : Option (List (String × String))
  enabled : Option Bool
  description : Option String

structure AgentSkillFile where
  path : String
  content : String
  encoding : Option String

structure AgentSkillBundle where
  format : String
  id : String
  name : String
  description : Option String
  entry : String
  files : List AgentSkillFile
  enabled : Option Bool
  optionalDirs : Option Json

/-- What the checks answer when they fail. -/
structure PolicyError where
  error : String
  detail : String

/-- `/^\$\x7bENV:([A-Z0-9_]\x7b1,128\x7d)\x7d$/`. -/
def isEnvPlaceholder (value : String) : Bool :=
  let name := (value.toList.drop 6).dropLast
  value.toList.take 6 = ['$', '\x7b', 'E', 'N', 'V', ':'] &&
    value.toList.getLast? = some '\x7d' && 0 < name.length && name.length ≤ 128 &&
    name.all fun c => c.isUpper || c.isDigit || c = '_'

/-- `/^[a-z0-9][a-z0-9-_]\x7b0,63\x7d$/`, for the names of servers and the ids of skills. -/
def isStableName (name : String) : Bool :=
  match name.toList with
  | [] => false
  | first :: rest => (first.isLower || first.isDigit) && rest.length ≤ 63 &&
      rest.all fun c => c.isLower || c.isDigit || c = '-' || c = '_'

/-- `/^[a-zA-Z]:[\\/]/`. -/
def hasDrive (path : List Char) : Bool :=
  match path with
  | letter :: ':' :: slash :: _ => letter.isAlpha && (slash = '\\' || slash = '/')
  | _ => false

def isSafeRelativePath (path : String) : Bool :=
  let chars := path.toList
  let parts := (splitChars (· = '/') chars).filter fun part => !part.isEmpty
  !chars.isEmpty && !chars.contains '\x00' && chars.head? ≠ some '/' && chars.head? ≠ some '\\' &&
    !hasDrive chars && !parts.any (fun part => part = ['.'] || part = ['.', '.']) &&
    !chars.contains '\\'

def invalidPlaceholder (detail : String) : PolicyError where
  error := "INVALID_MCP_PLACEHOLDER"
  detail := detail

def invalidBundle (detail : String) : PolicyError where
  error := "INVALID_SKILL_BUNDLE"
  detail := detail

def require (holds : Bool) (error : PolicyError) : Except PolicyError Unit :=
  if holds then .ok () else .error error

/-- The entries of `env` or `headers` are placeholders. -/
def checkPlaceholders (field : String) (entries : List (String × String)) :
    Except PolicyError Unit :=
  entries.forM fun (key, value) => require (isEnvPlaceholder value)
    (invalidPlaceholder (field ++ "." ++ key ++ " must be $\x7bENV:VAR\x7d"))

def checkMcpServer (server : McpServerConfig) : Except PolicyError Unit := do
  require (isStableName server.name)
    (invalidPlaceholder ("invalid mcp server name: " ++ server.name))
  checkPlaceholders "env" (server.env.getD [])
  checkPlaceholders "headers" (server.headers.getD [])

def validateMcpPlaceholderPolicy (mcpServers : List McpServerConfig) : Except PolicyError Unit :=
  mcpServers.forM checkMcpServer

def checkSkillFile (bundle : AgentSkillBundle) (file : AgentSkillFile) :
    Except PolicyError Unit := do
  require (isSafeRelativePath file.path)
    (invalidBundle ("skill " ++ bundle.id ++ " invalid file path: " ++ file.path))
  let encoding := file.encoding.getD "utf8"
  require (encoding = "utf8" ∨ encoding = "base64")
    (invalidBundle ("skill " ++ bundle.id ++ " file " ++ file.path ++ " invalid encoding"))

def checkSkillBundle (bundle : AgentSkillBundle) : Except PolicyError Unit := do
  require (bundle.format = "agentskills-v1") (invalidBundle "unsupported skill bundle format")
  require (isStableName bundle.id) (invalidBundle ("invalid skill id: " ++ bundle.id))
  require (bundle.files.any fun file => file.path = "SKILL.md")
    (invalidBundle ("skill " ++ bundle.id ++ " missing SKILL.md"))
  bundle.files.forM (checkSkillFile bundle)

def validateAgentSkillBundles (bundles : List AgentSkillBundle) : Except PolicyError Unit :=
  bundles.forM checkSkillBundle

/-! ### What the checks accept -/

section checks
variable {α ε : Type}

theorem require_eq_ok {holds : Bool} {error : PolicyError} :
    require holds error = .ok () ↔ holds := by
  unfold require
  split <;> simp_all

theorem seq_eq_ok {first rest : Except ε Unit} :
    (first >>= fun _ => rest) = .ok () ↔ first = .ok () ∧ rest = .ok () := by
  cases first with
  | error e => simp [bind, Except.bind]
  | ok u => simp [bind, Except.bind]

theorem forM_eq_ok {check : α → Except ε Unit} {items : List α} :
    items.forM check = .ok () ↔ ∀ item ∈ items, check item = .ok () := by
  induction items with
  | nil => simp [List.forM, pure, Except.pure]
  | cons item rest ih =>
    show (check item >>= fun _ => rest.forM check) = .ok () ↔ _
    rw [seq_eq_ok, ih, List.forall_mem_cons]

end checks

theorem checkPlaceholders_eq_ok {field : String} {entries : List (String × String)} :
    checkPlaceholders field entries = .ok () ↔ ∀ entry ∈ entries, isEnvPlaceholder entry.2 := by
  unfold checkPlaceholders
  rw [forM_eq_ok]
  exact forall₂_congr fun _ _ => require_eq_ok

/-- Servers that pass have stable names, and only placeholders in their environment and headers. -/
theorem validateMcpPlaceholderPolicy_eq_ok {mcpServers : List McpServerConfig} :
    validateMcpPlaceholderPolicy mcpServers = .ok () ↔ ∀ server ∈ mcpServers,
      isStableName server.name ∧
      (∀ entry ∈ server.env.getD [], isEnvPlaceholder entry.2) ∧
      ∀ entry ∈ server.headers.getD [], isEnvPlaceholder entry.2 := by
  unfold validateMcpPlaceholderPolicy
  rw [forM_eq_ok]
  refine forall₂_congr fun server _ => ?_
  unfold checkMcpServer
  rw [seq_eq_ok, seq_eq_ok, require_eq_ok, checkPlaceholders_eq_ok, checkPlaceholders_eq_ok]

theorem checkSkillFile_eq_ok {bundle : AgentSkillBundle} {file : AgentSkillFile} :
    checkSkillFile bundle file = .ok () ↔ isSafeRelativePath file.path ∧
      (file.encoding.getD "utf8" = "utf8" ∨ file.encoding.getD "utf8" = "base64") := by
  unfold checkSkillFile
  rw [seq_eq_ok, require_eq_ok, require_eq_ok, decide_eq_true_iff]

/-- Bundles that pass have the one format, a stable id, a `SKILL.md` and safe paths. -/
theorem validateAgentSkillBundles_eq_ok {bundles : List AgentSkillBundle} :
    validateAgentSkillBundles bundles = .ok () ↔ ∀ bundle ∈ bundles,
      bundle.format = "agentskills-v1" ∧ isStableName bundle.id ∧
      (∃ file ∈ bundle.files, file.path = "SKILL.md") ∧
      ∀ file ∈ bundle.files, isSafeRelativePath file.path ∧
        (file.encoding.getD "utf8" = "utf8" ∨ file.encoding.getD "utf8" = "base64") := by
  unfold validateAgentSkillBundles
  rw [forM_eq_ok]
  refine forall₂_congr fun bundle _ => ?_
  unfold checkSkillBundle
  rw [seq_eq_ok, seq_eq_ok, seq_eq_ok, require_eq_ok, require_eq_ok, require_eq_ok, forM_eq_ok,
    decide_eq_true_iff, List.any_eq_true]
  simp only [decide_eq_true_eq, checkSkillFile_eq_ok]

end Vespid.Api.Toolsets
