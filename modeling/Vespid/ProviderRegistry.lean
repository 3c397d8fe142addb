import Vespid.Scheduler.Cron

/-!
# The registry of model providers
-/

namespace Vespid.ProviderRegistry

inductive LlmProviderId where
  | openai | anthropic | openaiCodex | opencode | google | googleVertex
  | googleAntigravity | googleGeminiCli | zai | openrouter | xai | groq
  | cerebras | mistral | githubCopilot | vercelAiGateway | cloudflareAiGateway | qwenPortal
  | minimax | minimaxPortal | moonshot | kimiCoding | synthetic | together
  | huggingface | venice | qianfan | nvidia | ollama | vllm
  | litellm | amazonBedrock | xiaomi | chutes | copilotProxy | custom
  deriving DecidableEq

namespace LlmProviderId

def name : LlmProviderId → String
  | openai => "openai"
  | anthropic => "anthropic"
  | openaiCodex => "openai-codex"
  | opencode => "opencode"
  | google => "google"
  | googleVertex => "google-vertex"
  | googleAntigravity => "google-antigravity"
  | googleGeminiCli => "google-gemini-cli"
  | zai => "zai"
  | openrouter => "openrouter"
  | xai => "xai"
  | groq => "groq"
  | cerebras => "cerebras"
  | mistral => "mistral"
  | githubCopilot => "github-copilot"
  | vercelAiGateway => "vercel-ai-gateway"
  | cloudflareAiGateway => "cloudflare-ai-gateway"
  | qwenPortal => "qwen-portal"
  | minimax => "minimax"
  | minimaxPortal => "minimax-portal"
  | moonshot => "moonshot"
  | kimiCoding => "kimi-coding"
  | synthetic => "synthetic"
  | together => "together"
  | huggingface => "huggingface"
  | venice => "venice"
  | qianfan => "qianfan"
  | nvidia => "nvidia"
  | ollama => "ollama"
  | vllm => "vllm"
  | litellm => "litellm"
  | amazonBedrock => "amazon-bedrock"
  | xiaomi => "xiaomi"
  | chutes => "chutes"
  | copilotProxy => "copilot-proxy"
  | custom => "custom"

/-- `LLM_PROVIDER_IDS` -/
def all : List LlmProviderId :=
  [.openai, .anthropic, .openaiCodex, .opencode, .google, .googleVertex, .googleAntigravity,
   .googleGeminiCli, .zai, .openrouter, .xai, .groq, .cerebras, .mistral, .githubCopilot,
   .vercelAiGateway, .cloudflareAiGateway, .qwenPortal, .minimax, .minimaxPortal, .moonshot,
   .kimiCoding, .synthetic, .together, .huggingface, .venice, .qianfan, .nvidia, .ollama, .vllm,
   .litellm, .amazonBedrock, .xiaomi, .chutes, .copilotProxy, .custom]

def defaultModelId : LlmProviderId → String
  | openai => "gpt-5.3-codex"
  | anthropic => "claude-3-5-sonnet-latest"
  | openaiCodex => "gpt-5.3-codex"
  | opencode => "claude-opus-4-6"
  | google => "gemini-2.0-flash"
  | googleVertex => "gemini-2.0-flash-001"
  | googleAntigravity => "gemini-3-pro-high"
  | googleGeminiCli => "gemini-2.5-pro"
  | zai => "glm-4.7"
  | openrouter => "anthropic/claude-sonnet-4-5"
  | xai => "grok-4"
  | groq => "llama-3.3-70b-versatile"
  | cerebras => "zai-glm-4.7"
  | mistral => "mistral-large-latest"
  | githubCopilot => "gpt-4o"
  | vercelAiGateway => "anthropic/claude-opus-4.6"
  | cloudflareAiGateway => "cf/meta/llama-3.1-70b-instruct"
  | qwenPortal => "coder-model"
  | minimax => "MiniMax-M2.5"
  | minimaxPortal => "MiniMax-M2.1"
  | moonshot => "kimi-k2.5"
  | kimiCoding => "k2p5"
  | synthetic => "hf:MiniMaxAI/MiniMax-M2.1"
  | together => "deepseek-ai/DeepSeek-V3"
  | huggingface => "deepseek-ai/DeepSeek-R1"
  | venice => "venice-uncensored"
  | qianfan => "deepseek-v3.2"
  | nvidia => "nvidia/llama-3.1-nemotron-70b-instruct"
  | ollama => "llama3.3"
  | vllm => "Qwen/Qwen2.5-Coder-32B-Instruct"
  | litellm => "gpt-4.1-mini"
  | amazonBedrock => "anthropic.claude-3-5-sonnet-20241022-v2:0"
  | xiaomi => "mimo-v2-flash"
  | chutes => "chutes-fast"
  | copilotProxy => "gpt-4o"
  | custom => "custom-model"

/-- Whether the provider serves sessions. -/
def servesSessions : LlmProviderId → Bool
  | googleVertex | amazonBedrock => false
  | _ => true

theorem mem_all (id : LlmProviderId) : id ∈ all := by
  cases id <;> decide

end LlmProviderId

/-- `toLowerCase`; small letters, digits and hyphens stay as they are. -/
structure LowerCase where
  toLowerCase : List Char → List Char
  stays : ∀ s, s.all (fun c => "abcdefghijklmnopqrstuvwxyz0123456789-".toList.contains c) = true →
    toLowerCase s = s

/-- Less what `in` finds on the prototype of the table of aliases. -/
def normalizeLlmProviderId (lower : LowerCase) (input : String) : Option LlmProviderId :=
  let trimmed := lower.toLowerCase (Scheduler.trim input.toList)
  if trimmed = "gemini".toList then some .google
  else if trimmed = "vertex".toList then some .googleVertex
  else LlmProviderId.all.find? fun id => id.name.toList = trimmed

theorem names_plain : ∀ id ∈ LlmProviderId.all, Scheduler.trim id.name.toList = id.name.toList ∧
    id.name.toList.all (fun c => "abcdefghijklmnopqrstuvwxyz0123456789-".toList.contains c) =
      true := by
  decide +kernel

theorem names_found : ∀ id ∈ LlmProviderId.all, id.name.toList ≠ "gemini".toList ∧
    id.name.toList ≠ "vertex".toList ∧
    LlmProviderId.all.find? (fun other => other.name.toList = id.name.toList) = some id := by
  simp only [ne_eq, String.toList_inj]
  decide +kernel

/-- A provider is found under its name. -/
theorem normalize_name (lower : LowerCase) (id : LlmProviderId) :
    normalizeLlmProviderId lower id.name = some id := by
  obtain ⟨trimmed, plain⟩ := names_plain id id.mem_all
  obtain ⟨gemini, vertex, found⟩ := names_found id id.mem_all
  unfold normalizeLlmProviderId
  simp only [trimmed, lower.stays _ plain, if_neg gemini, if_neg vertex]
  exact found

end Vespid.ProviderRegistry
