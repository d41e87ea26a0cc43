import HarnessTraining.Library.Json
import HarnessTraining.Library.Text
import HarnessTraining.Trainer.Parameter

/-!
# Run configurations

`src/config.py`: what a measurement is configured with, and how a configuration is written.

The fields of an object are written with sorted keys wherever a digest is taken, so they are listed in
that order here.

* `identityPayload_inj` — a configuration is written as what is measured of it.
-/

set_option autoImplicit false

namespace HarnessTraining

inductive ReasoningEffort where
  | low | medium | high | xhigh
  deriving DecidableEq

def ReasoningEffort.text : ReasoningEffort → String
  | .low => "low"
  | .medium => "medium"
  | .high => "high"
  | .xhigh => "xhigh"

/-- The provider is always `openai_compatible`. -/
structure LlmProviderConfig where
  modelName : String
  baseUrl : String
  apiKeyEnv : String
  maxContextLength : ℤ
  tokenizerName : Option String := none
  temperature : Option Decimal := none
  topP : Option Decimal := none
  seed : Option ℤ := none
  maxTokens : ℤ
  enableThinking : Option Bool := none
  thinkingBudgetTokens : Option ℕ := none
  reasoningEffort : Option ReasoningEffort := none
  providerOnly : Option (List String) := none
  /-- `_validate_provider_contract`. -/
  contract : thinkingBudgetTokens.isSome = true → enableThinking = some true

namespace LlmProviderConfig

theorem contract_unlimited : (none : Option ℕ).isSome = true → (none : Option Bool) = some true := by
  simp

def isDeterministic (config : LlmProviderConfig) : Bool := config.seed.isSome

/-- `provider_revision`, under the value of `FRAMEWORK_LLM_CACHE_REV`. -/
def providerRevision (config : LlmProviderConfig) (override : Option String) : String :=
  let revision := "openai_compatible:" ++ config.baseUrl ++ ":" ++ config.modelName
  match override with
  | none => revision
  | some text => revision ++ ":" ++ text

def toJson (config : LlmProviderConfig) : Json := .obj [
  ("api_key_env", .str config.apiKeyEnv),
  ("base_url", .str config.baseUrl),
  ("enable_thinking", .ofOption .bool config.enableThinking),
  ("max_context_length", .int config.maxContextLength),
  ("max_tokens", .int config.maxTokens),
  ("model_name", .str config.modelName),
  ("provider", .str "openai_compatible"),
  ("provider_only", .ofOption (fun slugs ↦ .arr (slugs.map .str)) config.providerOnly),
  ("reasoning_effort", .ofOption (fun effort ↦ .str effort.text) config.reasoningEffort),
  ("seed", .ofOption .int config.seed),
  ("temperature", .ofOption .float config.temperature),
  ("thinking_budget_tokens", .ofOption (fun budget : ℕ ↦ .int budget) config.thinkingBudgetTokens),
  ("tokenizer_name", .ofOption .str config.tokenizerName),
  ("top_p", .ofOption .float config.topP)]

theorem ReasoningEffort.text_inj {effort effort' : ReasoningEffort}
    (h : effort.text = effort'.text) : effort = effort' := by
  cases effort <;> cases effort' <;> first | rfl | exact absurd h (by decide)

/-- A provider is told by how it is written. -/
theorem toJson_inj {config config' : LlmProviderConfig} (h : config.toJson = config'.toJson) :
    config = config' := by
  obtain ⟨modelName, baseUrl, apiKeyEnv, maxContextLength, tokenizerName, temperature, topP, seed,
    maxTokens, enableThinking, thinkingBudgetTokens, reasoningEffort, providerOnly, _⟩ := config
  obtain ⟨modelName', baseUrl', apiKeyEnv', maxContextLength', tokenizerName', temperature', topP',
    seed', maxTokens', enableThinking', thinkingBudgetTokens', reasoningEffort', providerOnly',
    _⟩ := config'
  simp only [toJson, Json.obj.injEq, List.cons.injEq, Prod.mk.injEq, Json.str.injEq, Json.int.injEq,
    true_and, and_true] at h
  obtain ⟨rfl, rfl, hthinking, rfl, rfl, rfl, hproviders, heffort, hseed, htemperature, hbudget,
    htokenizer, htopP⟩ := h
  obtain rfl := Json.ofOption_inj (fun _ _ ↦ Json.bool.inj) (fun _ h ↦ nomatch h) hthinking
  obtain rfl := Json.ofOption_inj (fun _ _ h ↦ List.map_injective_iff.mpr
    (fun _ _ ↦ Json.str.inj) (Json.arr.inj h)) (fun _ h ↦ nomatch h) hproviders
  obtain rfl := Json.ofOption_inj (fun _ _ h ↦ ReasoningEffort.text_inj (Json.str.inj h))
    (fun _ h ↦ nomatch h) heffort
  obtain rfl := Json.ofOption_inj (fun _ _ ↦ Json.int.inj) (fun _ h ↦ nomatch h) hseed
  obtain rfl := Json.ofOption_inj (fun _ _ ↦ Json.float.inj) (fun _ h ↦ nomatch h) htemperature
  obtain rfl := Json.ofOption_inj (fun _ _ h ↦ Int.ofNat.inj (Json.int.inj h))
    (fun _ h ↦ nomatch h) hbudget
  obtain rfl := Json.ofOption_inj (fun _ _ ↦ Json.str.inj) (fun _ h ↦ nomatch h) htokenizer
  obtain rfl := Json.ofOption_inj (fun _ _ ↦ Json.float.inj) (fun _ h ↦ nomatch h) htopP
  rfl

theorem normal_toJson (config : LlmProviderConfig) : config.toJson.normal = config.toJson := by
  have hitems (slugs : List String) : (Json.arr (slugs.map .str)).normal = .arr (slugs.map .str) :=
    Json.normal_arr (by simp [Json.normal])
  refine Json.Dictionary.normal_obj ⟨?_, ?_⟩
  · simp +decide only [List.pairwise_cons, List.forall_mem_cons, List.not_mem_nil, false_implies,
      implies_true, and_true]
  · simp only [List.forall_mem_cons, List.not_mem_nil, false_implies, implies_true, and_true]
    exact ⟨rfl, rfl, Json.normal_ofOption (fun _ ↦ rfl) _, rfl, rfl, rfl, rfl,
      Json.normal_ofOption hitems _, Json.normal_ofOption (fun _ ↦ rfl) _,
      Json.normal_ofOption (fun _ ↦ rfl) _, Json.normal_ofOption (fun _ ↦ rfl) _,
      Json.normal_ofOption (fun _ ↦ rfl) _, Json.normal_ofOption (fun _ ↦ rfl) _,
      Json.normal_ofOption (fun _ ↦ rfl) _⟩

end LlmProviderConfig

inductive EnvironmentKind where
  | swe | terminalBench
  deriving DecidableEq

def EnvironmentKind.text : EnvironmentKind → String
  | .swe => "swe"
  | .terminalBench => "terminal_bench"

theorem EnvironmentKind.text_inj {kind kind' : EnvironmentKind} (h : kind.text = kind'.text) :
    kind = kind' := by
  cases kind <;> cases kind' <;> first | rfl | exact absurd h (by decide)

structure EnvironmentConfig where
  kind : EnvironmentKind
  taskNames : List TaskId
  hostNetcache : Bool := true
  nonempty : taskNames ≠ []
  /-- `_validate_task_panel`. -/
  unique : taskNames.Nodup
  hosted : kind = .swe → hostNetcache = true

inductive ExecutionMode where
  | eager | replay
  deriving DecidableEq

def ExecutionMode.text : ExecutionMode → String
  | .eager => "eager"
  | .replay => "replay"

structure PluginsConfig where
  llmCache : Bool := true
  execution : ExecutionMode := .eager

def PluginsConfig.toJson (config : PluginsConfig) : Json := .obj [
  ("execution", .str config.execution.text),
  ("llm_cache", .bool config.llmCache)]

theorem PluginsConfig.toJson_inj {config config' : PluginsConfig}
    (h : config.toJson = config'.toJson) : config = config' := by
  obtain ⟨llmCache, execution⟩ := config
  obtain ⟨llmCache', execution'⟩ := config'
  simp only [toJson, Json.obj.injEq, List.cons.injEq, Prod.mk.injEq, Json.str.injEq,
    Json.bool.injEq, true_and, and_true] at h
  obtain ⟨hmode, rfl⟩ := h
  cases execution <;> cases execution' <;> first | rfl | exact absurd hmode (by decide)

/-- The training target, with what the proposer is shown. -/
structure TrainingTarget extends TrainingTargetConfig where
  proposerVisible : List String := []

structure RunConfig where
  trainingTarget : TrainingTarget
  environment : EnvironmentConfig
  maxSteps : ℤ := 50
  agentTimeoutMultiplier : Decimal
  maxRolloutConcurrency : ℤ := 10
  plugins : PluginsConfig := {}
  llmProviderConfig : LlmProviderConfig
  /-- `_validate_plugin_contract`. -/
  replays : plugins.execution = .replay → llmProviderConfig.isDeterministic = true ∧
    (environment.kind = .terminalBench → environment.hostNetcache = true)

namespace RunConfig

/-- `measurement_identity_payload`, over a given panel: the trainer's own fields are left out. -/
def identityPayload (config : RunConfig) (taskNames : List TaskId) : Json := .obj [
  ("agent_timeout_multiplier", .float config.agentTimeoutMultiplier),
  ("environment", .obj [
    ("host_netcache", .bool config.environment.hostNetcache),
    ("kind", .str config.environment.kind.text),
    ("task_names", .arr (taskNames.map .str))]),
  ("llm_provider_config", config.llmProviderConfig.toJson),
  ("max_rollout_concurrency", .int config.maxRolloutConcurrency),
  ("max_steps", .int config.maxSteps),
  ("plugins", config.plugins.toJson),
  ("schema_version", .int 13),
  ("training_target", .obj [("module", .str config.trainingTarget.module)])]

/-- The configuration over a permuted panel. -/
def withPanel (config : RunConfig) (taskNames : List TaskId)
    (h : taskNames.Perm config.environment.taskNames) : RunConfig :=
  { config with
    environment := { config.environment with
      taskNames := taskNames
      nonempty := fun hnil ↦ config.environment.nonempty (List.perm_nil.mp (hnil ▸ h.symm))
      unique := h.nodup_iff.mpr config.environment.unique } }

/-- What is measured of a configuration: all but the order of the panel and the trainer's own
fields. -/
structure SameMeasured (config config' : RunConfig) : Prop where
  module : config.trainingTarget.module = config'.trainingTarget.module
  kind : config.environment.kind = config'.environment.kind
  hostNetcache : config.environment.hostNetcache = config'.environment.hostNetcache
  taskNames : config.environment.taskNames.Perm config'.environment.taskNames
  maxSteps : config.maxSteps = config'.maxSteps
  agentTimeoutMultiplier : config.agentTimeoutMultiplier = config'.agentTimeoutMultiplier
  maxRolloutConcurrency : config.maxRolloutConcurrency = config'.maxRolloutConcurrency
  plugins : config.plugins = config'.plugins
  llmProviderConfig : config.llmProviderConfig = config'.llmProviderConfig

theorem SameMeasured.withPanel (config : RunConfig) {taskNames : List TaskId}
    (h : taskNames.Perm config.environment.taskNames) :
    SameMeasured (config.withPanel taskNames h) config where
  module := rfl
  kind := rfl
  hostNetcache := rfl
  taskNames := h
  maxSteps := rfl
  agentTimeoutMultiplier := rfl
  maxRolloutConcurrency := rfl
  plugins := rfl
  llmProviderConfig := rfl

theorem normal_identityPayload (config : RunConfig) (taskNames : List TaskId) :
    (config.identityPayload taskNames).normal = config.identityPayload taskNames := by
  have henvironment : (Json.obj [
      ("host_netcache", .bool config.environment.hostNetcache),
      ("kind", .str config.environment.kind.text),
      ("task_names", .arr (taskNames.map .str))]).normal = .obj [
      ("host_netcache", .bool config.environment.hostNetcache),
      ("kind", .str config.environment.kind.text),
      ("task_names", .arr (taskNames.map .str))] := by
    refine Json.Dictionary.normal_obj ⟨?_, ?_⟩
    · simp +decide only [List.pairwise_cons, List.forall_mem_cons, List.not_mem_nil, false_implies,
        implies_true, and_true]
    · simp only [List.forall_mem_cons, List.not_mem_nil, false_implies, implies_true, and_true]
      exact ⟨rfl, rfl, Json.normal_arr (by simp [Json.normal])⟩
  have hplugins : config.plugins.toJson.normal = config.plugins.toJson := rfl
  refine Json.Dictionary.normal_obj ⟨?_, ?_⟩
  · simp +decide only [List.pairwise_cons, List.forall_mem_cons, List.not_mem_nil, false_implies,
      implies_true, and_true]
  · simp only [List.forall_mem_cons, List.not_mem_nil, false_implies, implies_true, and_true]
    exact ⟨rfl, henvironment, config.llmProviderConfig.normal_toJson, rfl, rfl, hplugins, rfl, rfl⟩

/-- **A configuration is written as what is measured of it.** -/
theorem identityPayload_inj {config config' : RunConfig} :
    (config.identityPayload (config.environment.taskNames.insertionSort (· ≤ ·))).dumps =
        (config'.identityPayload (config'.environment.taskNames.insertionSort (· ≤ ·))).dumps ↔
      SameMeasured config config' := by
  rw [Json.dumps_inj, normal_identityPayload, normal_identityPayload]
  constructor
  · intro h
    simp only [identityPayload, Json.obj.injEq, List.cons.injEq, Prod.mk.injEq, Json.str.injEq,
      Json.int.injEq, Json.float.injEq, Json.bool.injEq, Json.arr.injEq, true_and, and_true] at h
    obtain ⟨hmultiplier, ⟨hnetcache, hkind, htasks⟩, hprovider, hconcurrency, hsteps, hplugins,
      hmodule⟩ := h
    exact {
      module := hmodule
      kind := EnvironmentKind.text_inj hkind
      hostNetcache := hnetcache
      taskNames := Text.insertionSort_inj.mp
        (List.map_injective_iff.mpr (fun _ _ ↦ Json.str.inj) htasks)
      maxSteps := hsteps
      agentTimeoutMultiplier := hmultiplier
      maxRolloutConcurrency := hconcurrency
      plugins := PluginsConfig.toJson_inj hplugins
      llmProviderConfig := LlmProviderConfig.toJson_inj hprovider }
  · intro h
    simp only [identityPayload, h.module, h.kind, h.hostNetcache, h.maxSteps,
      h.agentTimeoutMultiplier, h.maxRolloutConcurrency, h.plugins, h.llmProviderConfig,
      Text.insertionSort_inj.mpr h.taskNames]

end RunConfig

end HarnessTraining
