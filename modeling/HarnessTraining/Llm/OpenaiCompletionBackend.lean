import HarnessTraining.Config
import HarnessTraining.Llm.Backend
import HarnessTraining.Library.StateExcept

/-!
# The OpenAI-compatible backend

`src/llm/openai_completion_backend.py`: what a provider is sent, how its stream of chunks is read, and
when a stream that only thinks is cut.

The client that sends a request and the SDK that accumulates chunks are not part of the repository:
they are parameters.
-/

set_option autoImplicit false

namespace HarnessTraining

/-! ## Streams -/

/-- A fragment of a tool call. -/
structure ToolCallDelta where
  index : ℕ
  name : String := ""
  arguments : String := ""
  deriving DecidableEq

structure Delta where
  content : Option String := none
  reasoningContent : Option String := none
  reasoning : Option String := none
  toolCalls : List ToolCallDelta := []
  deriving DecidableEq

/-- A chunk without a choice has no delta; the rest of a chunk is read by the SDK only. -/
structure Chunk where
  delta : Option Delta := none
  rest : Json := .null
  deriving DecidableEq

/-- `a or b`, of two optional texts. -/
def orText (a b : Option String) : Option String :=
  match a with
  | some text => if text = "" then b else some text
  | none => b

/-- `_reasoning_extension_field`. -/
def reasoningExtensionField (reasoningContent reasoning : Option String) : Option String :=
  orText reasoningContent reasoning

/-- `delta.content or delta.tool_calls`. -/
def Delta.answers (delta : Delta) : Bool :=
  delta.content.getD "" ≠ "" || delta.toolCalls ≠ []

/-- What a delta adds to the reasoning. -/
def Delta.thought (delta : Delta) : String :=
  (reasoningExtensionField delta.reasoningContent delta.reasoning).getD ""

/-! ## The reasoning budget -/

/-- `_BUDGET_RECOUNT_CHARS`. -/
def BUDGET_RECOUNT_CHARS : ℕ := 512

/-- `_BUDGET_SLACK_TOKENS`. -/
def BUDGET_SLACK_TOKENS : ℕ := 64

/-- `_ReasoningBudgetWatch`. -/
structure ReasoningBudgetWatch where
  budget : ℕ
  tokenCounter : HfTokenCounter
  answered : Bool := false
  reasoning : String := ""
  recountAt : ℕ := 0

namespace ReasoningBudgetWatch

/-- `overrun`: whether the budget is overrun, and the watch afterwards. -/
def overrun (watch : ReasoningBudgetWatch) (delta : Delta) : Bool × ReasoningBudgetWatch :=
  if watch.answered then (false, watch)
  else if delta.answers then (false, { watch with answered := true })
  else
    let watch := { watch with reasoning := watch.reasoning ++ delta.thought }
    if watch.reasoning.length < watch.recountAt then (false, watch)
    else
      let watch := { watch with recountAt := watch.reasoning.length + BUDGET_RECOUNT_CHARS }
      (decide (watch.budget + BUDGET_SLACK_TOKENS ≤ watch.tokenCounter.count watch.reasoning), watch)

end ReasoningBudgetWatch

/-! ## Reading a stream -/

/-- What the SDK says of a response: the message of `choices[0]`, if there is one, and the usage, if it
came. -/
structure Snapshot where
  id : String
  model : String
  systemFingerprint : Option String
  choice : Option Delta
  finishReason : Option String
  usage : Option Usage
  deriving DecidableEq

/-- What the SDK raises on a chunk. -/
inductive StreamError where
  | indexError (text : String)
  | other (text : String)
  deriving DecidableEq

/-- `ChatCompletionStreamState`. -/
structure StreamSdk (σ : Type) where
  initial : σ
  handleChunk : σ → Chunk → Except StreamError σ
  currentCompletionSnapshot : σ → Except StreamError Snapshot

/-- An error of the SDK on a chunk. -/
def handleError : StreamError → CompletionError
  | .indexError _ =>
    .typed (.malformedProviderStream "malformed tool_call stream: out-of-range tool_call index")
  | .other text => .foreign (.other text)

/-- An error of the SDK on the way out. -/
def snapshotError : StreamError → CompletionError
  | .indexError text => .foreign (.other text)
  | .other text => .foreign (.other text)

section Read

variable {σ : Type} (sdk : StreamSdk σ)

/-- The loop of `_completion_from_stream`: the watch that cut a stream, or the snapshot of one that
ended. -/
def readStream : σ → Option ReasoningBudgetWatch → List Chunk →
    Except CompletionError (ReasoningBudgetWatch ⊕ Snapshot)
  | state, _, [] => do
    return .inr (← (sdk.currentCompletionSnapshot state).mapError snapshotError)
  | state, watch, chunk :: chunks => do
    let state ← (sdk.handleChunk state chunk).mapError handleError
    match watch, chunk.delta with
    | some watch, some delta =>
      let (overrun, watch) := watch.overrun delta
      if overrun then return .inl watch
      else readStream state (some watch) chunks
    | watch, _ => readStream state watch chunks

/-- `_budget_aborted_completion`. -/
def budgetAbortedCompletion (tokenCounter : HfTokenCounter) (budget : ℕ) (reasoning : String) :
    Except CompletionError Completion := do
  let clipped ← (tokenCounter.truncate reasoning budget).mapError fun text ↦ .foreign (.other text)
  return {
    finishReason := some "length"
    usage := { completionTokens := some budget, reasoningTokens := some budget }
    reasoningContent := .str clipped
    response := .obj [("budget_aborted", .bool true)] }

/-- The completion of a stream that ended. -/
def completionOfSnapshot (snapshot : Snapshot) : Except CompletionError Completion :=
  match snapshot.choice with
  | none => throw (.foreign (.other "IndexError: list index out of range"))
  | some message => return {
      toolCalls := message.toolCalls.map fun call ↦
        ⟨call.name, if call.arguments = "" then "\x7b\x7d" else call.arguments⟩
      content := message.content
      finishReason := snapshot.finishReason
      usage := snapshot.usage.getD {}
      reasoningContent :=
        .ofOption .str (reasoningExtensionField message.reasoningContent message.reasoning)
      response := .obj [
        ("id", .str snapshot.id),
        ("model", .str snapshot.model),
        ("system_fingerprint", .ofOption .str snapshot.systemFingerprint)] }

/-- `_completion_from_stream`. -/
def completionFromStream (watch : Option ReasoningBudgetWatch) (chunks : List Chunk) :
    Except CompletionError Completion := do
  match ← readStream sdk sdk.initial watch chunks with
  | .inl watch => budgetAbortedCompletion watch.tokenCounter watch.budget watch.reasoning
  | .inr snapshot => completionOfSnapshot snapshot

end Read

/-! ## Requests -/

/-- A member of a dictionary, if it is set. -/
def optionalMember (key : String) (value : Option Json) : List (String × Json) :=
  value.toList.map fun value ↦ (key, value)

namespace LlmProviderConfig

variable (config : LlmProviderConfig)

/-- `_resolved_thinking`. -/
def resolvedThinking (enableThinking : Option Bool) : Except CompletionError (Option Bool) :=
  match enableThinking with
  | none => return config.enableThinking
  | some thinking =>
    if config.enableThinking = none then
      throw (.foreign (.other ("enable_thinking override passed but this deployment declares no " ++
        "thinking channel (config enable_thinking is unset)")))
    else return some thinking

/-- `_thinking_budget`. -/
def thinkingBudget (enableThinking : Option Bool) : Except CompletionError (Option ℕ) := do
  let thinking ← config.resolvedThinking enableThinking
  return if thinking = some true then config.thinkingBudgetTokens else none

/-- `_build_request_body`, as a dictionary. -/
def buildRequestBody (request : CompletionRequest) : Except CompletionError (List (String × Json)) := do
  let thinking ← config.resolvedThinking request.enableThinking
  let extraBody :=
    optionalMember "provider" (config.providerOnly.map fun slugs ↦ .obj [("only", .arr (slugs.map .str))]) ++
    optionalMember "chat_template_kwargs" (thinking.map fun thinking ↦
      .obj [("enable_thinking", .bool thinking)])
  return [("model", .str config.modelName), ("messages", .arr request.messages)] ++
    optionalMember "temperature" (config.temperature.map .float) ++
    optionalMember "top_p" (config.topP.map .float) ++
    optionalMember "seed" (config.seed.map .int) ++
    optionalMember "reasoning_effort" (config.reasoningEffort.map fun effort ↦ .str effort.text) ++
    [("max_tokens", .int config.maxTokens)] ++
    (if extraBody = [] then [] else [("extra_body", .obj extraBody)]) ++
    (if request.tools = [] then []
      else [("tools", .arr request.tools), ("tool_choice", .str "auto")])

end LlmProviderConfig

/-- A client, with its retries: the stream of chunks that a body is answered with, told of what JSON
cannot write in it.  The order of the members of a body does not matter. -/
structure Client where
  create : Option String → Json → Except CompletionError (List Chunk)
  unordered : ∀ unserializable body, create unserializable body.normal = create unserializable body

/-- `OpenAICompletionBackend`: a backend that may cut streams has a tokenizer. -/
structure OpenaiCompletionBackend where
  config : LlmProviderConfig
  budgetCounter : Option HfTokenCounter
  counted : budgetCounter.isSome = config.thinkingBudgetTokens.isSome

namespace OpenaiCompletionBackend

/-- `__init__`. -/
def init (hub : String → Except String (Option HfTokenCounter)) (config : LlmProviderConfig) :
    Except String OpenaiCompletionBackend :=
  match hbudget : config.thinkingBudgetTokens with
  | none => return ⟨config, none, by rw [hbudget]; rfl⟩
  | some _ => do
    match ← resolveTokenCounter hub config.tokenizerName config.modelName with
    | none => throw ("thinking_budget_tokens requires a resolvable tokenizer " ++
        "(set tokenizer_name or use a Hub-id-shaped model_name)")
    | some counter => return ⟨config, some counter, by rw [hbudget]; rfl⟩

variable (backend : OpenaiCompletionBackend)

/-- `_complete`. -/
def completeOnce {σ : Type} (sdk : StreamSdk σ) (client : Client) (request : CompletionRequest) :
    Except CompletionError Completion := do
  let body ← backend.config.buildRequestBody request
  let thinkingBudget ← backend.config.thinkingBudget request.enableThinking
  let chunks ← client.create request.unserializable (.obj body)
  let watch := do
    let budget ← thinkingBudget
    let tokenCounter ← backend.budgetCounter
    return { budget := budget, tokenCounter := tokenCounter }
  completionFromStream sdk watch chunks

/-- `complete`. -/
def complete {σ : Type} (sdk : StreamSdk σ) (client : Client) (request : CompletionRequest) :
    Except CompletionError Completion :=
  classified (backend.completeOnce sdk client request)

/-- `cache_key`. -/
def cacheKey (hexdigest : String → String) (request : CompletionRequest) :
    Except CompletionError String := do
  let body ← backend.config.buildRequestBody request
  let thinkingBudget ← backend.config.thinkingBudget request.enableThinking
  match request.unserializable with
  | some text => throw (.foreign (.other text))
  | none => return hexdigest (Json.dumps (.obj (body ++
      [("__client", .obj [
        ("thinking_budget_tokens", .ofOption (fun budget : ℕ ↦ .int budget) thinkingBudget)])])))

end OpenaiCompletionBackend

end HarnessTraining
