import HarnessTraining.Llm.CacheKey

/-!
# The completion cache

`src/plugins/caching/llm_cache.py`: a backend in front of another that keeps its completions in the
shared store, one row a request.

* `deserialize_serialize` — a stored completion is read back as it was.
* `caching_owner_iff` — when the cache leaves a failure with its owner.
-/

set_option autoImplicit false

namespace HarnessTraining

open StateExcept

/-! ## Rows -/

def ToolCall.toJson (call : ToolCall) : Json :=
  .obj [("name", .str call.name), ("arguments", .str call.arguments)]

def Usage.toJson (usage : Usage) : Json := .obj [
  ("prompt_tokens", .ofOption .int usage.promptTokens),
  ("completion_tokens", .ofOption .int usage.completionTokens),
  ("reasoning_tokens", .ofOption .int usage.reasoningTokens),
  ("cached_input_tokens", .ofOption .int usage.cachedInputTokens)]

/-- `dataclasses.asdict` of a completion. -/
def Completion.toJson (completion : Completion) : Json := .obj [
  ("tool_calls", .arr (completion.toolCalls.map ToolCall.toJson)),
  ("content", .ofOption .str completion.content),
  ("finish_reason", .ofOption .str completion.finishReason),
  ("usage", completion.usage.toJson),
  ("reasoning_content", completion.reasoningContent),
  ("response", completion.response),
  ("served_from_cache", .bool completion.servedFromCache)]

/-- The text of a row: the members are written in the order of the fields. -/
def serializeCompletion (completion : Completion) : String :=
  String.ofList completion.toJson.render

/-- A completion as it is read from a row: a record does not check the types of its fields. -/
structure ReadCompletion where
  toolCalls : List (Json × Json)
  content : Json
  finishReason : Json
  promptTokens : Json
  completionTokens : Json
  reasoningTokens : Json
  cachedInputTokens : Json
  reasoningContent : Json
  response : Json
  deriving DecidableEq

/-- The completion, but for where it came from; the members of a dictionary have no order. -/
def Completion.toRead (completion : Completion) : ReadCompletion where
  toolCalls := completion.toolCalls.map fun call ↦ (.str call.name, .str call.arguments)
  content := .ofOption .str completion.content
  finishReason := .ofOption .str completion.finishReason
  promptTokens := .ofOption .int completion.usage.promptTokens
  completionTokens := .ofOption .int completion.usage.completionTokens
  reasoningTokens := .ofOption .int completion.usage.reasoningTokens
  cachedInputTokens := .ofOption .int completion.usage.cachedInputTokens
  reasoningContent := completion.reasoningContent.normal
  response := completion.response.normal

/-- `ToolCall(**call)`. -/
def readToolCall (call : Json) : Option (Json × Json) := do
  let members ← call.obj?
  if members.all fun m ↦ m.1 ∈ ["name", "arguments"] then
    return (← members.lookup "name", ← members.lookup "arguments")
  else none

/-- What `data.get("tool_calls", ())` holds, item by item; the keys of a dictionary and the characters
of a text are no tool calls. -/
def readToolCalls : Option Json → Option (List (Json × Json))
  | none => some []
  | some (.arr items) => items.mapM readToolCall
  | some (.obj []) => some []
  | some (.str "") => some []
  | some _ => none

/-- `Usage(**usage)`. -/
def readUsage (usage : Option Json) : Option (Json × Json × Json × Json) := do
  let members ← (usage.getD (.obj [])).obj?
  if members.all fun m ↦ m.1 ∈ ["prompt_tokens", "completion_tokens", "reasoning_tokens",
      "cached_input_tokens"] then
    return ((members.lookup "prompt_tokens").getD .null,
      (members.lookup "completion_tokens").getD .null,
      (members.lookup "reasoning_tokens").getD .null,
      (members.lookup "cached_input_tokens").getD .null)
  else none

/-- `_deserialize`; `none` is an exception. -/
def deserializeCompletion (text : String) : Option ReadCompletion := do
  let data ← (Json.loads text).bind Json.obj?
  let toolCalls ← readToolCalls (data.lookup "tool_calls")
  let usage ← readUsage (data.lookup "usage")
  return {
    toolCalls := toolCalls
    content := (data.lookup "content").getD .null
    finishReason := (data.lookup "finish_reason").getD .null
    promptTokens := usage.1
    completionTokens := usage.2.1
    reasoningTokens := usage.2.2.1
    cachedInputTokens := usage.2.2.2
    reasoningContent := (data.lookup "reasoning_content").getD .null
    response := (data.lookup "response").getD (.obj []) }

/-! ## The round trip -/

theorem normal_ofOption_str (text : Option String) :
    (Json.ofOption .str text).normal = .ofOption .str text :=
  Json.normal_ofOption (fun _ ↦ rfl) text

theorem normal_ofOption_int (n : Option ℤ) : (Json.ofOption .int n).normal = .ofOption .int n :=
  Json.normal_ofOption (fun _ ↦ rfl) n

theorem Usage.normal_toJson (usage : Usage) : usage.toJson.normal = .obj [
    ("cached_input_tokens", .ofOption .int usage.cachedInputTokens),
    ("completion_tokens", .ofOption .int usage.completionTokens),
    ("prompt_tokens", .ofOption .int usage.promptTokens),
    ("reasoning_tokens", .ofOption .int usage.reasoningTokens)] := by
  simp +decide only [toJson, Json.normal, Json.normalMembers, Json.insertMember,
    normal_ofOption_int, if_true, if_false]

theorem normalItems_toolCalls (calls : List ToolCall) :
    Json.normalItems (calls.map ToolCall.toJson) = calls.map fun call ↦
      .obj [("arguments", .str call.arguments), ("name", .str call.name)] := by
  induction calls with
  | nil => rfl
  | cons call calls ih =>
    rw [List.map_cons, List.map_cons, Json.normalItems, ih]
    rfl

theorem Completion.normal_toJson (completion : Completion) : completion.toJson.normal = .obj [
    ("content", .ofOption .str completion.content),
    ("finish_reason", .ofOption .str completion.finishReason),
    ("reasoning_content", completion.reasoningContent.normal),
    ("response", completion.response.normal),
    ("served_from_cache", .bool completion.servedFromCache),
    ("tool_calls", .arr (completion.toolCalls.map fun call ↦
      .obj [("arguments", .str call.arguments), ("name", .str call.name)])),
    ("usage", completion.usage.toJson.normal)] := by
  simp +decide only [toJson, Json.normal, Json.normalMembers, Json.insertMember,
    normal_ofOption_str, normalItems_toolCalls, if_true, if_false]

/-- The fields of a stored completion. -/
theorem Completion.exists_members (completion : Completion) : ∃ members,
    completion.toJson.normal = .obj members ∧
    members.lookup "tool_calls" = some (.arr (completion.toolCalls.map fun call ↦
      .obj [("arguments", .str call.arguments), ("name", .str call.name)])) ∧
    members.lookup "content" = some (.ofOption .str completion.content) ∧
    members.lookup "finish_reason" = some (.ofOption .str completion.finishReason) ∧
    members.lookup "usage" = some completion.usage.toJson.normal ∧
    members.lookup "reasoning_content" = some completion.reasoningContent.normal ∧
    members.lookup "response" = some completion.response.normal :=
  ⟨_, completion.normal_toJson, rfl, rfl, rfl, rfl, rfl, rfl⟩

theorem readToolCalls_toolCalls (calls : List ToolCall) :
    readToolCalls (some (.arr (calls.map fun call ↦
      .obj [("arguments", .str call.arguments), ("name", .str call.name)]))) =
      some (calls.map fun call ↦ (.str call.name, .str call.arguments)) := by
  rw [readToolCalls]
  induction calls with
  | nil => rfl
  | cons call calls ih =>
    rw [List.map_cons, List.mapM_cons, ih]
    simp +decide [readToolCall, Json.obj?, List.lookup_cons]

/-- **The round trip.**  A stored completion is read back as it was. -/
theorem deserialize_serializeCompletion (completion : Completion) :
    deserializeCompletion (serializeCompletion completion) = some completion.toRead := by
  have husage : readUsage (some completion.usage.toJson.normal) =
      some (.ofOption .int completion.usage.promptTokens,
        .ofOption .int completion.usage.completionTokens,
        .ofOption .int completion.usage.reasoningTokens,
        .ofOption .int completion.usage.cachedInputTokens) := by
    rw [Usage.normal_toJson]
    simp +decide [readUsage, Json.obj?, List.lookup_cons]
  obtain ⟨members, hmembers, hcalls, hcontent, hreason, husages, hreasoning, hresponse⟩ :=
    completion.exists_members
  rw [deserializeCompletion, Json.loads, serializeCompletion, String.toList_ofList,
    Json.parse_render, Option.map_some, Option.bind_some, hmembers, Json.obj?]
  simp only [Option.bind_eq_bind, Option.bind_some, hcalls, hcontent, hreason, husages, hreasoning,
    hresponse, readToolCalls_toolCalls, husage, Option.getD_some]
  rfl

/-! ## The backend -/

/-- What a caller gets: the completion, and whether it was served from the cache. -/
structure Served where
  completion : ReadCompletion
  servedFromCache : Bool
  deriving DecidableEq

def Completion.served (completion : Completion) : Served where
  completion := completion.toRead
  servedFromCache := completion.servedFromCache

/-- `CachingCompletionBackend`. -/
structure CachingCompletionBackend where
  inner : OpenaiCompletionBackend
  revision : String

/-- The key of a row. -/
def rowKey (revision key : String) : String := "c:" ++ revision ++ ":" ++ key

/-- What a row is good for: a row that is not read falls through to a live call. -/
def servedFromRow (hit : Option String) : Option Served := do
  let completion ← deserializeCompletion (← hit)
  return ⟨completion, true⟩

section Complete

variable {σ : Type} (sdk : StreamSdk σ) (hexdigest : String → String)

/-- `CachingCompletionBackend.complete`, by what the store answers for a row: the completion, and the
row that is put. -/
def CachingCompletionBackend.complete (backend : CachingCompletionBackend)
    (get : String → Option String) (client : Client) (request : CompletionRequest) :
    Except CompletionError (Served × Option (String × String)) := do
  let key := rowKey backend.revision (← backend.inner.cacheKey hexdigest request)
  match servedFromRow (get key) with
  | some served => return (served, none)
  | none =>
    let completion ← backend.inner.complete sdk client request
    return (completion.served, some (key, serializeCompletion completion))

/-- A plain backend, or one behind the cache. -/
inductive CompletionBackend where
  | plain (backend : OpenaiCompletionBackend)
  | caching (backend : CachingCompletionBackend)

/-- `make_backend`, of a backend of a configuration; `disabled` turns the cache off. -/
def makeBackend (disabled : Bool) (override : Option String) (backend : OpenaiCompletionBackend)
    (cache : Bool) : CompletionBackend :=
  if !cache || !backend.config.isDeterministic || disabled then .plain backend
  else .caching ⟨backend, backend.config.providerRevision override⟩

/-- `complete`, by what the store answers. -/
def CompletionBackend.complete (get : String → Option String) (client : Client)
    (request : CompletionRequest) : CompletionBackend → Except CompletionError Served
  | .plain backend => do return (← backend.complete sdk client request).served
  | .caching backend => do return (← backend.complete sdk hexdigest get client request).1

end Complete

/-! ## Failures -/

/-- The four typed failures. -/
inductive FailureOwner where
  | completionRequest | providerRejectedToolCall | completionInfra | framework
  deriving DecidableEq

def TypedFailure.owner : TypedFailure → FailureOwner
  | .completionRequest _ => .completionRequest
  | .contextWindowExceeded _ _ _ _ => .completionRequest
  | .providerRejectedToolCall _ => .providerRejectedToolCall
  | .completionInfra _ => .completionInfra
  | .malformedProviderStream _ => .completionInfra
  | .framework _ => .framework

def CompletionError.owner : CompletionError → Option FailureOwner
  | .typed failure => some failure.owner
  | .foreign _ => none

/-- What `complete` raises is typed. -/
theorem classified_owner {α : Type} {result : Except CompletionError α} {error : CompletionError}
    (h : classified result = .error error) : error.owner ≠ none := by
  rcases result with (failure | foreign) | a <;> cases h <;> exact fun h ↦ nomatch h

/-- A key that is not built raises an exception that is none of the typed failures. -/
theorem cacheKey_error {hexdigest : String → String} {backend : OpenaiCompletionBackend}
    {request : CompletionRequest} {error : CompletionError}
    (h : backend.cacheKey hexdigest request = .error error) : error.owner = none := by
  have hresolved {error : CompletionError} (h : backend.config.resolvedThinking
      request.enableThinking = .error error) : error.owner = none := by
    unfold LlmProviderConfig.resolvedThinking at h
    split at h
    · cases h
    · split at h
      · cases h
        rfl
      · cases h
  rw [OpenaiCompletionBackend.cacheKey, LlmProviderConfig.buildRequestBody,
    LlmProviderConfig.thinkingBudget] at h
  cases hthinking : backend.config.resolvedThinking request.enableThinking with
  | error error' =>
    rw [hthinking] at h
    cases h
    exact hresolved hthinking
  | ok thinking =>
    rw [hthinking] at h
    cases hunserializable : request.unserializable with
    | none =>
      rw [hunserializable] at h
      cases h
    | some text =>
      rw [hunserializable] at h
      cases h
      rfl

section Owner

variable {σ : Type} (sdk : StreamSdk σ) (hexdigest : String → String)
  (backend : OpenaiCompletionBackend) (request : CompletionRequest)

/-- The key of a request is built unless a thinking mode is asked for that the deployment does not
declare, or JSON cannot write the request. -/
theorem cacheKey_isOk_iff : (∃ key, backend.cacheKey hexdigest request = .ok key) ↔
    (request.enableThinking ≠ none → backend.config.enableThinking ≠ none) ∧
      request.unserializable = none := by
  have hthinking : (∃ thinking, backend.config.resolvedThinking request.enableThinking =
      .ok thinking) ↔ (request.enableThinking ≠ none → backend.config.enableThinking ≠ none) := by
    unfold LlmProviderConfig.resolvedThinking
    cases request.enableThinking with
    | none => exact iff_of_true ⟨_, rfl⟩ (by simp)
    | some thinking =>
      dsimp only
      split
      · next hundeclared => exact iff_of_false (by rintro ⟨_, ⟨⟩⟩) (by simp [hundeclared])
      · next hdeclared => exact iff_of_true ⟨_, rfl⟩ fun _ ↦ hdeclared
  rw [← hthinking]
  constructor
  · rintro ⟨key, h⟩
    obtain ⟨body, hbody, h⟩ := bind_eq_ok h
    obtain ⟨thinking, hresolved, -⟩ := bind_eq_ok hbody
    obtain ⟨budget, -, h⟩ := bind_eq_ok h
    refine ⟨⟨thinking, hresolved⟩, ?_⟩
    cases hunserializable : request.unserializable with
    | none => rfl
    | some text =>
      rw [hunserializable] at h
      cases h
  · rintro ⟨⟨thinking, hresolved⟩, hserializable⟩
    rw [OpenaiCompletionBackend.cacheKey, LlmProviderConfig.buildRequestBody,
      LlmProviderConfig.thinkingBudget, hresolved, hserializable]
    exact ⟨_, rfl⟩

/-- A client that serves nothing. -/
def unreachable : Client where
  create _ _ := .error (.typed (.completionInfra "connection refused"))
  unordered _ _ := rfl

theorem complete_unreachable : ∃ error,
    backend.complete sdk unreachable request = .error error := by
  rw [OpenaiCompletionBackend.complete, OpenaiCompletionBackend.completeOnce]
  cases backend.config.buildRequestBody request with
  | error error => cases error <;> exact ⟨_, rfl⟩
  | ok body =>
    rw [ok_bind]
    cases backend.config.thinkingBudget request.enableThinking with
    | error error => cases error <;> exact ⟨_, rfl⟩
    | ok budget => exact ⟨_, rfl⟩

/-- **When the cache leaves a failure with its owner.**  Whatever the plain backend raises, the backend
behind a cold cache raises a failure of the same type if and only if the request asks for no thinking
mode that the deployment does not declare and JSON can write it. -/
theorem caching_owner_iff (override : Option String)
    (hdeterministic : backend.config.isDeterministic = true) :
    (∀ client error,
        (makeBackend false override backend false).complete sdk hexdigest (fun _ ↦ none) client
          request = .error error →
        ∃ error', (makeBackend false override backend true).complete sdk hexdigest (fun _ ↦ none)
            client request = .error error' ∧
          error'.owner ≠ none ∧ error'.owner = error.owner) ↔
      (request.enableThinking ≠ none → backend.config.enableThinking ≠ none) ∧
        request.unserializable = none := by
  have hplain (client : Client) : (makeBackend false override backend false).complete sdk hexdigest
      (fun _ ↦ none) client request = do
        return (← backend.complete sdk client request).served := rfl
  have hcaching (client : Client) : (makeBackend false override backend true).complete sdk hexdigest
      (fun _ ↦ none) client request = do
        let _ ← backend.cacheKey hexdigest request
        return (← backend.complete sdk client request).served := by
    rw [makeBackend, if_neg (by simp [hdeterministic]), CompletionBackend.complete,
      CachingCompletionBackend.complete]
    rcases backend.cacheKey hexdigest request with error | key
    · rfl
    · rcases backend.complete sdk client request with error | completion <;> rfl
  simp only [hplain, hcaching]
  rw [← cacheKey_isOk_iff hexdigest]
  constructor
  · intro h
    obtain ⟨error, herror⟩ := complete_unreachable sdk backend request
    obtain ⟨error', hcached, howned, -⟩ := h unreachable error (by rw [herror]; rfl)
    cases hkey : backend.cacheKey hexdigest request with
    | error error'' =>
      rw [hkey] at hcached
      cases hcached
      exact absurd (cacheKey_error hkey) howned
    | ok key => exact ⟨key, rfl⟩
  · rintro ⟨key, hkey⟩ client error herror
    refine ⟨error, by rw [hkey, ok_bind, herror], ?_, rfl⟩
    exact classified_owner (bind_pure_error herror)

end Owner

/-- A provider without a thinking channel. -/
def unthinking : OpenaiCompletionBackend where
  config := {
    modelName := "qwen"
    baseUrl := "http://localhost/v1"
    apiKeyEnv := "KEY"
    maxContextLength := 32768
    seed := some 0
    maxTokens := 4096
    contract := LlmProviderConfig.contract_unlimited }
  budgetCounter := none
  counted := rfl

/-- **The cache changes the owner of a failure.**  A request that turns thinking off at a provider
without a thinking channel fails as infrastructure at the plain backend, and untyped behind the
cache. -/
theorem caching_untyped :
    unthinking.config.isDeterministic = true ∧
    (makeBackend false none unthinking false).complete joiningSdk Hexdigest.spelled.digest
        (fun _ ↦ none) unreachable { ping with enableThinking := some false } =
      .error (.typed (.completionInfra ("enable_thinking override passed but this deployment " ++
        "declares no thinking channel (config enable_thinking is unset)"))) ∧
    (makeBackend false none unthinking true).complete joiningSdk Hexdigest.spelled.digest
        (fun _ ↦ none) unreachable { ping with enableThinking := some false } =
      .error (.foreign (.other ("enable_thinking override passed but this deployment " ++
        "declares no thinking channel (config enable_thinking is unset)"))) :=
  ⟨rfl, rfl, rfl⟩

theorem caching_owner_iff_ping :
    ∃ error, (makeBackend false none unthinking true).complete joiningSdk
        Hexdigest.spelled.digest (fun _ ↦ none) unreachable ping = .error error ∧
      error.owner ≠ none ∧ error.owner = some .completionInfra :=
  (caching_owner_iff joiningSdk Hexdigest.spelled.digest unthinking ping none rfl).mpr
    ⟨fun h ↦ absurd rfl h, rfl⟩ unreachable (.typed (.completionInfra "connection refused")) rfl

end HarnessTraining
