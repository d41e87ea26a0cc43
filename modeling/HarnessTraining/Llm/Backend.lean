import HarnessTraining.Library.Json
import HarnessTraining.Llm.TokenCounter
import Mathlib.Data.List.Infix

/-!
# The completion boundary

`src/llm/backend.py` and `src/llm/transport.py`: what a completion request asks, what it gets, and who
owns a failure.
-/

set_option autoImplicit false

namespace HarnessTraining

/-- Messages and tools are what JSON makes of them; of those that hold something JSON does not know,
`unserializable` is what `json.dumps` says. -/
structure CompletionRequest where
  messages : List Json
  tools : List Json := []
  enableThinking : Option Bool := none
  unserializable : Option String := none

structure ToolCall where
  name : String
  arguments : String
  deriving DecidableEq

structure Usage where
  promptTokens : Option ℤ := none
  completionTokens : Option ℤ := none
  reasoningTokens : Option ℤ := none
  cachedInputTokens : Option ℤ := none
  deriving DecidableEq

/-- A completion as its provider normalised it. -/
structure Completion where
  toolCalls : List ToolCall := []
  content : Option String := none
  finishReason : Option String := none
  usage : Usage := {}
  reasoningContent : Json := .null
  response : Json := .obj []
  servedFromCache : Bool := false
  deriving DecidableEq

/-! ## Failures -/

/-- An exception that is none of the typed failures. -/
inductive ForeignError where
  | badRequest (message text : String)
  | apiError (text : String)
  | other (text : String)
  deriving DecidableEq

/-- The typed failures; `ContextWindowExceededError` is a `CompletionRequestError` and
`MalformedProviderStreamError` a `CompletionInfraError`. -/
inductive TypedFailure where
  | completionRequest (text : String)
  | contextWindowExceeded (text : String) (limit requested inputTokens : Option ℕ)
  | providerRejectedToolCall (text : String)
  | completionInfra (text : String)
  | malformedProviderStream (text : String)
  | framework (text : String)
  deriving DecidableEq

inductive CompletionError where
  | typed (failure : TypedFailure)
  | foreign (error : ForeignError)
  deriving DecidableEq

/-- `_MALFORMED_TOOL_ARGS`. -/
def MALFORMED_TOOL_ARGS : String := "Failed to parse tool call arguments as JSON"

/-- `needle in text`. -/
def contains (needle text : String) : Bool := decide (needle.toList <:+: text.toList)

/-- `classified_completion_failure`. -/
def classifiedCompletionFailure : ForeignError → TypedFailure
  | .badRequest message text =>
    if contains MALFORMED_TOOL_ARGS text then .providerRejectedToolCall text
    else .completionRequest message
  | .apiError text =>
    if contains MALFORMED_TOOL_ARGS text then .providerRejectedToolCall text
    else .completionInfra text
  | .other text => .completionInfra text

/-- `CompletionBackend.complete` around `_complete`. -/
def classified {α : Type} : Except CompletionError α → Except CompletionError α
  | .ok a => .ok a
  | .error (.typed failure) => .error (.typed failure)
  | .error (.foreign error) => .error (.typed (classifiedCompletionFailure error))

end HarnessTraining
