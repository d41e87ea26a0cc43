import HarnessTraining.Llm.ReasoningBudget
import HarnessTraining.Replay.Keys

/-!
# What a cache key stands for

The key of a request is a digest of the body that is sent and of the reasoning budget; the completion
also depends on the tokenizer that counts and clips the reasoning.

* `cacheKey_inj` — requests of one key send one body, under one budget;
* `completionFromStream_congr` — tokenizers that count and clip alike read every stream alike;
* `cacheKey_complete_iff` — when a key stands for one completion.
-/

set_option autoImplicit false

namespace HarnessTraining

open StateExcept

/-! ## Keys -/

theorem mem_optionalMember {key : String} {value : Option Json} {m : String × Json}
    (h : m ∈ optionalMember key value) : m.1 = key := by
  obtain ⟨value, -, rfl⟩ := List.mem_map.mp h
  rfl

theorem client_not_mem_body {config : LlmProviderConfig} {request : CompletionRequest}
    {body : List (String × Json)} (h : config.buildRequestBody request = .ok body) :
    "__client" ∉ body.map Prod.fst := by
  obtain ⟨thinking, -, h⟩ := bind_eq_ok h
  obtain rfl := Except.ok.inj h
  intro hmem
  obtain ⟨m, hm, hclient⟩ := List.mem_map.mp hmem
  have hkeys : m.1 ∈ ["model", "messages", "temperature", "top_p", "seed", "reasoning_effort",
      "max_tokens", "extra_body", "tools", "tool_choice"] := by
    simp only [List.mem_append] at hm
    rcases hm with (((((((hm | hm) | hm) | hm) | hm) | hm) | hm) | hm)
    · rcases List.mem_pair.mp hm with rfl | rfl <;> simp
    · rw [mem_optionalMember hm]
      decide
    · rw [mem_optionalMember hm]
      decide
    · rw [mem_optionalMember hm]
      decide
    · rw [mem_optionalMember hm]
      decide
    · rw [List.mem_singleton.mp hm]
      simp
    · split at hm
      · cases hm
      · rw [List.mem_singleton.mp hm]
        simp
    · split at hm
      · cases hm
      · rcases List.mem_pair.mp hm with rfl | rfl <;> simp
  rw [hclient] at hkeys
  exact absurd hkeys (by decide)

namespace OpenaiCompletionBackend

variable {hexdigest : Hexdigest} {backend backend' : OpenaiCompletionBackend}
  {request request' : CompletionRequest} {key : String}

theorem cacheKey_ok (h : backend.cacheKey hexdigest.digest request = .ok key) :
    ∃ body budget, backend.config.buildRequestBody request = .ok body ∧
      backend.config.thinkingBudget request.enableThinking = .ok budget ∧
      request.unserializable = none ∧
      key = hexdigest.digest (Json.dumps (.obj (body ++ [("__client", .obj [
        ("thinking_budget_tokens", .ofOption (fun budget : ℕ ↦ .int budget) budget)])]))) := by
  obtain ⟨body, hbody, h⟩ := bind_eq_ok h
  obtain ⟨budget, hbudget, h⟩ := bind_eq_ok h
  refine ⟨body, budget, hbody, hbudget, ?_⟩
  cases hunserializable : request.unserializable with
  | none =>
    rw [hunserializable] at h
    exact ⟨rfl, (Except.ok.inj h).symm⟩
  | some text =>
    rw [hunserializable] at h
    cases h

/-- **Requests of one key** send one body, under one budget. -/
theorem cacheKey_inj (h : backend.cacheKey hexdigest.digest request = .ok key)
    (h' : backend'.cacheKey hexdigest.digest request' = .ok key) :
    ∃ body body' budget, backend.config.buildRequestBody request = .ok body ∧
      backend'.config.buildRequestBody request' = .ok body' ∧
      (Json.obj body).normal = (Json.obj body').normal ∧
      backend.config.thinkingBudget request.enableThinking = .ok budget ∧
      backend'.config.thinkingBudget request'.enableThinking = .ok budget ∧
      request.unserializable = none ∧ request'.unserializable = none := by
  obtain ⟨body, budget, hbody, hbudget, hunserializable, hkey⟩ := cacheKey_ok h
  obtain ⟨body', budget', hbody', hbudget', hunserializable', hkey'⟩ := cacheKey_ok h'
  have hdumps := hexdigest.injective (hkey.symm.trans hkey')
  rw [Json.dumps_inj] at hdumps
  obtain ⟨hsame, hclient⟩ := Json.normal_obj_snoc_inj (client_not_mem_body hbody)
    (client_not_mem_body hbody') hdumps
  have hnormal (budget : Option ℕ) : (Json.obj [("thinking_budget_tokens",
      .ofOption (fun budget : ℕ ↦ .int budget) budget)]).normal =
      .obj [("thinking_budget_tokens", .ofOption (fun budget : ℕ ↦ .int budget) budget)] := by
    refine Json.Dictionary.normal_obj ⟨List.pairwise_singleton _ _, ?_⟩
    intro m hm
    rw [List.mem_singleton.mp hm]
    exact Json.normal_ofOption (fun _ ↦ rfl) budget
  rw [hnormal, hnormal] at hclient
  simp only [Json.obj.injEq, List.cons.injEq, Prod.mk.injEq, true_and, and_true] at hclient
  obtain rfl := Json.ofOption_inj (fun _ _ h ↦ Int.ofNat.inj (Json.int.inj h))
    (fun _ h ↦ nomatch h) hclient
  exact ⟨body, body', budget, hbody, hbody', hsame, hbudget, hbudget', hunserializable,
    hunserializable'⟩

end OpenaiCompletionBackend

/-! ## Tokenizers -/

/-- Two tokenizers find the same texts too long for a budget, and clip them alike. -/
def HfTokenCounter.AgreesBeyond (budget : ℕ) (counter counter' : HfTokenCounter) : Prop :=
  ∀ text, (budget + BUDGET_SLACK_TOKENS ≤ counter.count text ↔
      budget + BUDGET_SLACK_TOKENS ≤ counter'.count text) ∧
    (budget + BUDGET_SLACK_TOKENS ≤ counter.count text →
      counter.truncate text budget = counter'.truncate text budget)

section Streams

variable {σ : Type} {sdk : StreamSdk σ} {budget : ℕ} {counter counter' : HfTokenCounter}

/-- The completion of a cut or ended stream. -/
def completionOfRead : ReasoningBudgetWatch ⊕ Snapshot → Except CompletionError Completion
  | .inl watch => budgetAbortedCompletion watch.tokenCounter watch.budget watch.reasoning
  | .inr snapshot => completionOfSnapshot snapshot

theorem completionFromStream_eq (watch : Option ReasoningBudgetWatch) (chunks : List Chunk) :
    completionFromStream sdk watch chunks =
      readStream sdk sdk.initial watch chunks >>= completionOfRead := by
  rw [completionFromStream]
  rcases readStream sdk sdk.initial watch chunks with e | (watch | snapshot) <;> rfl

/-- A watch under another tokenizer goes the same way. -/
theorem overrun_congr (hagree : counter.AgreesBeyond budget counter') {watch : ReasoningBudgetWatch}
    (hbudget : watch.budget = budget) (hcounter : watch.tokenCounter = counter) (delta : Delta) :
    ({ watch with tokenCounter := counter' } : ReasoningBudgetWatch).overrun delta =
        ((watch.overrun delta).1, { (watch.overrun delta).2 with tokenCounter := counter' }) ∧
      (watch.overrun delta).2.budget = budget ∧ (watch.overrun delta).2.tokenCounter = counter ∧
      ((watch.overrun delta).1 = true →
        budget + BUDGET_SLACK_TOKENS ≤ counter.count (watch.overrun delta).2.reasoning) := by
  subst hbudget hcounter
  unfold ReasoningBudgetWatch.overrun
  split
  · exact ⟨rfl, rfl, rfl, fun h ↦ nomatch h⟩
  · split
    · exact ⟨rfl, rfl, rfl, fun h ↦ nomatch h⟩
    · dsimp only
      split
      · exact ⟨rfl, rfl, rfl, fun h ↦ nomatch h⟩
      · refine ⟨?_, rfl, rfl, of_decide_eq_true⟩
        rw [Prod.mk.injEq]
        exact ⟨decide_eq_decide.mpr (hagree _).1.symm, rfl⟩

theorem readStream_congr (hagree : counter.AgreesBeyond budget counter') :
    ∀ {state : σ} {watch : ReasoningBudgetWatch} {chunks : List Chunk}, watch.budget = budget →
      watch.tokenCounter = counter →
      readStream sdk state (some watch) chunks >>= completionOfRead =
        readStream sdk state (some { watch with tokenCounter := counter' }) chunks >>=
          completionOfRead
  | state, watch, [], _, _ => rfl
  | state, watch, chunk :: chunks, hbudget, hcounter => by
    cases hchunk : sdk.handleChunk state chunk with
    | error e =>
      rw [readStream, readStream, hchunk]
      rfl
    | ok state' =>
      cases hdelta : chunk.delta with
      | none =>
        rw [readStream_skip hchunk hdelta, readStream_skip hchunk hdelta]
        exact readStream_congr hagree hbudget hcounter
      | some delta =>
        obtain ⟨hsame, hbudget', hcounter', hover⟩ := overrun_congr hagree hbudget hcounter delta
        rw [readStream_delta hchunk hdelta, readStream_delta hchunk hdelta, hsame]
        dsimp only
        split
        · next hcut =>
          rw [ok_bind, ok_bind, completionOfRead, completionOfRead, hbudget', hcounter']
          exact budgetAbortedCompletion_eq_iff.mpr ((hagree _).2 (hover hcut))
        · exact readStream_congr hagree hbudget' hcounter'

/-- **Tokenizers that count and clip alike** read every stream alike. -/
theorem completionFromStream_congr (hagree : counter.AgreesBeyond budget counter')
    (chunks : List Chunk) :
    completionFromStream sdk (some { budget := budget, tokenCounter := counter }) chunks =
      completionFromStream sdk (some { budget := budget, tokenCounter := counter' }) chunks := by
  rw [completionFromStream_eq, completionFromStream_eq]
  exact readStream_congr hagree rfl rfl

/-- The SDK reads a stream that is one thought, and finds a choice in it. -/
def ReadsThoughts (sdk : StreamSdk σ) : Prop :=
  ∀ text, ∃ chunk delta state snapshot message, chunk.delta = some delta ∧ delta.answers = false ∧
    delta.thought = text ∧ sdk.handleChunk sdk.initial chunk = .ok state ∧
    sdk.currentCompletionSnapshot state = .ok snapshot ∧ snapshot.choice = some message

/-- A single thought is counted once. -/
theorem completionFromStream_thought {chunk : Chunk} {delta : Delta} {state : σ}
    {snapshot : Snapshot} (hdelta : chunk.delta = some delta) (hanswers : delta.answers = false)
    (hstate : sdk.handleChunk sdk.initial chunk = .ok state)
    (hsnapshot : sdk.currentCompletionSnapshot state = .ok snapshot) :
    completionFromStream sdk (some { budget := budget, tokenCounter := counter }) [chunk] =
      if budget + BUDGET_SLACK_TOKENS ≤ counter.count delta.thought
      then budgetAbortedCompletion counter budget delta.thought
      else completionOfSnapshot snapshot := by
  have hdue : ¬("" : String).length + delta.thought.length < 0 := by omega
  rw [completionFromStream_eq, readStream_delta hstate hdelta,
    ReasoningBudgetWatch.overrun_recount rfl hanswers hdue]
  dsimp only
  rw [String.empty_append]
  split
  · next hcut =>
    rw [if_pos (of_decide_eq_true hcut)]
    rfl
  · next hcut =>
    rw [if_neg fun h ↦ hcut (decide_eq_true h), readStream, hsnapshot]
    rfl

/-- A cut stream has another response than one that ended. -/
theorem budgetAbortedCompletion_ne {reasoning : String} {snapshot : Snapshot} {message : Delta}
    (h : snapshot.choice = some message) :
    budgetAbortedCompletion counter budget reasoning ≠ completionOfSnapshot snapshot := by
  intro heq
  rw [completionOfSnapshot, h] at heq
  have hresponse := budgetAbortedCompletion_response heq
  simp at hresponse

/-- Tokenizers that read every stream alike count and clip alike. -/
theorem agreesBeyond_of_congr (hsdk : ReadsThoughts sdk)
    (h : ∀ chunks, completionFromStream sdk (some { budget := budget, tokenCounter := counter })
        chunks =
      completionFromStream sdk (some { budget := budget, tokenCounter := counter' }) chunks) :
    counter.AgreesBeyond budget counter' := by
  intro text
  obtain ⟨chunk, delta, state, snapshot, message, hdelta, hanswers, rfl, hstate, hsnapshot,
    hmessage⟩ := hsdk text
  have hread := h [chunk]
  rw [completionFromStream_thought hdelta hanswers hstate hsnapshot,
    completionFromStream_thought hdelta hanswers hstate hsnapshot] at hread
  by_cases hlong : budget + BUDGET_SLACK_TOKENS ≤ counter.count delta.thought
  · by_cases hlong' : budget + BUDGET_SLACK_TOKENS ≤ counter'.count delta.thought
    · rw [if_pos hlong, if_pos hlong', budgetAbortedCompletion_eq_iff] at hread
      exact ⟨iff_of_true hlong hlong', fun _ ↦ hread⟩
    · rw [if_pos hlong, if_neg hlong'] at hread
      exact absurd hread (budgetAbortedCompletion_ne hmessage)
  · by_cases hlong' : budget + BUDGET_SLACK_TOKENS ≤ counter'.count delta.thought
    · rw [if_neg hlong, if_pos hlong'] at hread
      exact absurd hread.symm (budgetAbortedCompletion_ne hmessage)
    · exact ⟨iff_of_false hlong hlong', fun h ↦ absurd h hlong⟩

end Streams

/-! ## Completions -/

namespace OpenaiCompletionBackend

section Iff

variable {σ : Type} {sdk : StreamSdk σ} {hexdigest : Hexdigest}
  {hub : String → Except String (Option HfTokenCounter)} {config config' : LlmProviderConfig}
  {backend backend' : OpenaiCompletionBackend} {request request' : CompletionRequest} {key : String}
  {budget : ℕ}

theorem init_ok (h : init hub config = .ok backend) : backend.config = config ∧
    ∀ budget, config.thinkingBudgetTokens = some budget →
      ∃ counter, backend.budgetCounter = some counter ∧
        resolveTokenCounter hub config.tokenizerName config.modelName = .ok (some counter) := by
  rw [init] at h
  split at h
  · next hbudget =>
    obtain rfl := Except.ok.inj h
    refine ⟨rfl, fun budget hsome ↦ ?_⟩
    rw [hbudget] at hsome
    cases hsome
  · next hbudget =>
    obtain ⟨counter, hcounter, h⟩ := bind_eq_ok h
    cases counter with
    | none => cases h
    | some counter =>
      obtain rfl := Except.ok.inj h
      exact ⟨rfl, fun _ _ ↦ ⟨counter, rfl, hcounter⟩⟩

theorem thinkingBudget_some {enableThinking : Option Bool}
    (h : config.thinkingBudget enableThinking = .ok (some budget)) :
    config.thinkingBudgetTokens = some budget := by
  obtain ⟨thinking, -, h⟩ := bind_eq_ok h
  have hbudget := Except.ok.inj h
  split at hbudget
  · exact hbudget
  · cases hbudget

/-- What is read of the answer to a request. -/
theorem completeOnce_eq {client : Client} {body : List (String × Json)} {thinkingBudget : Option ℕ}
    (hbody : backend.config.buildRequestBody request = .ok body)
    (hbudget : backend.config.thinkingBudget request.enableThinking = .ok thinkingBudget) :
    backend.completeOnce sdk client request =
      client.create request.unserializable (.obj body) >>= completionFromStream sdk (do
        let budget ← thinkingBudget
        let tokenCounter ← backend.budgetCounter
        return { budget := budget, tokenCounter := tokenCounter }) := by
  rw [completeOnce, hbody, ok_bind, hbudget, ok_bind]

/-- **When a key stands for one completion.**  Two backends answer requests of one key alike, whatever
the server, if and only if no reasoning budget applies or their tokenizers find the same texts too
long for it and clip them alike. -/
theorem cacheKey_complete_iff (hsdk : ReadsThoughts sdk) (override : Option String)
    (hbackend : init hub config = .ok backend) (hbackend' : init hub config' = .ok backend')
    (hrevision : config.providerRevision override = config'.providerRevision override)
    (hkey : backend.cacheKey hexdigest.digest request = .ok key)
    (hkey' : backend'.cacheKey hexdigest.digest request' = .ok key) :
    (∀ server : String → Client,
        backend.completeOnce sdk (server (config.providerRevision override)) request =
          backend'.completeOnce sdk (server (config'.providerRevision override)) request') ↔
      ∀ budget, config.thinkingBudget request.enableThinking = .ok (some budget) →
        ∀ counter counter',
          resolveTokenCounter hub config.tokenizerName config.modelName = .ok (some counter) →
          resolveTokenCounter hub config'.tokenizerName config'.modelName = .ok (some counter') →
          counter.AgreesBeyond budget counter' := by
  obtain ⟨rfl, hcounters⟩ := init_ok hbackend
  obtain ⟨rfl, hcounters'⟩ := init_ok hbackend'
  obtain ⟨body, body', thinkingBudget, hbody, hbody', hsame, hbudget, hbudget', hunserializable,
    hunserializable'⟩ := cacheKey_inj hkey hkey'
  have hcreate (client : Client) :
      client.create request.unserializable (.obj body) =
        client.create request'.unserializable (.obj body') := by
    rw [hunserializable, hunserializable', ← client.unordered, hsame, client.unordered]
  cases thinkingBudget with
  | none =>
    refine iff_of_true (fun server ↦ ?_) fun budget h ↦ ?_
    · rw [completeOnce_eq hbody hbudget, completeOnce_eq hbody' hbudget', hrevision, hcreate]
      rfl
    · rw [hbudget] at h
      cases h
  | some budget =>
    obtain ⟨counter, hcounter, hresolved⟩ := hcounters budget (thinkingBudget_some hbudget)
    obtain ⟨counter', hcounter', hresolved'⟩ := hcounters' budget (thinkingBudget_some hbudget')
    have hcomplete (client : Client) : backend.completeOnce sdk client request =
        client.create request.unserializable (.obj body) >>=
          completionFromStream sdk (some { budget := budget, tokenCounter := counter }) := by
      rw [completeOnce_eq hbody hbudget, hcounter]
      rfl
    have hcomplete' (client : Client) : backend'.completeOnce sdk client request' =
        client.create request.unserializable (.obj body) >>=
          completionFromStream sdk (some { budget := budget, tokenCounter := counter' }) := by
      rw [completeOnce_eq hbody' hbudget', hcounter', hcreate]
      rfl
    constructor
    · intro h budget' hbudget'' counter₁ counter₂ hcounter₁ hcounter₂
      rw [hbudget] at hbudget''
      rw [hresolved] at hcounter₁
      rw [hresolved'] at hcounter₂
      cases hbudget''
      cases hcounter₁
      cases hcounter₂
      refine agreesBeyond_of_congr hsdk fun chunks ↦ ?_
      have hread := h fun _ ↦ ⟨fun _ _ ↦ .ok chunks, fun _ _ ↦ rfl⟩
      rwa [hcomplete, hcomplete', ok_bind, ok_bind] at hread
    · intro h server
      have hagree := h budget hbudget counter counter' hresolved hresolved'
      rw [hcomplete, hcomplete', hrevision]
      refine bind_congr fun chunks ↦ ?_
      exact completionFromStream_congr hagree chunks

end Iff

end OpenaiCompletionBackend

/-! ## Two tokenizers -/

/-- A tokenizer of one token a text. -/
def wholeCounter : HfTokenCounter where
  encode text := {
    ids := [0]
    offsets := [(0, text.length)]
    aligned := rfl }

def twoTokenizers (name : String) : Except String (Option HfTokenCounter) :=
  if name = "a/character" then .ok (some characterCounter)
  else if name = "b/whole" then .ok (some wholeCounter)
  else .ok none

/-- A provider whose reasoning is cut at twenty tokens. -/
def cutting (tokenizerName apiKeyEnv : String) : LlmProviderConfig where
  modelName := "qwen"
  baseUrl := "http://localhost/v1"
  apiKeyEnv := apiKeyEnv
  maxContextLength := 32768
  tokenizerName := some tokenizerName
  seed := some 0
  maxTokens := 4096
  enableThinking := some true
  thinkingBudgetTokens := some 20
  contract := fun _ ↦ rfl

def characterBackend (apiKeyEnv : String) : OpenaiCompletionBackend :=
  ⟨cutting "a/character" apiKeyEnv, some characterCounter, rfl⟩

def wholeBackend : OpenaiCompletionBackend := ⟨cutting "b/whole" "KEY", some wholeCounter, rfl⟩

def ping : CompletionRequest where
  messages := [.obj [("content", .str "PING"), ("role", .str "user")]]

/-- The request with the members of its message in another order. -/
def reorderedPing : CompletionRequest where
  messages := [.obj [("role", .str "user"), ("content", .str "PING")]]

/-- Ninety characters of reasoning. -/
def ninety : Delta where
  reasoningContent := some (String.ofList (List.replicate 90 'x'))

/-- A server that answers everything with them. -/
def thinker : Client where
  create _ _ := .ok [{ delta := some ninety }]
  unordered _ _ := rfl

theorem readsThoughts_joiningSdk : ReadsThoughts joiningSdk := by
  intro text
  refine ⟨{ delta := some { reasoningContent := some text } }, { reasoningContent := some text }, _,
    _, _, rfl, rfl, ?_, rfl, rfl, rfl⟩
  by_cases htext : text = ""
  · subst htext
    rfl
  · rw [Delta.thought, reasoningExtensionField, orText, if_neg htext]
    rfl

/-- **A key stands for two completions.**  The name of the tokenizer is in neither the key nor the
revision; a runaway of ninety characters is cut by one tokenizer and not by the other. -/
theorem cacheKey_ambiguous :
    OpenaiCompletionBackend.init twoTokenizers (cutting "a/character" "KEY") =
      .ok (characterBackend "KEY") ∧
    OpenaiCompletionBackend.init twoTokenizers (cutting "b/whole" "KEY") = .ok wholeBackend ∧
    (cutting "a/character" "KEY").providerRevision none =
      (cutting "b/whole" "KEY").providerRevision none ∧
    (∃ key, (characterBackend "KEY").cacheKey Hexdigest.spelled.digest ping = .ok key ∧
      wholeBackend.cacheKey Hexdigest.spelled.digest ping = .ok key) ∧
    (characterBackend "KEY").completeOnce joiningSdk thinker ping ≠
      wholeBackend.completeOnce joiningSdk thinker ping := by
  refine ⟨rfl, rfl, rfl, ⟨_, rfl, rfl⟩, ?_⟩
  have hthought : ninety.thought = String.ofList (List.replicate 90 'x') := by decide
  have hcharacter : 20 + BUDGET_SLACK_TOKENS ≤ characterCounter.count ninety.thought := by
    rw [hthought, count_characterCounter, String.length_ofList, List.length_replicate]
    decide
  have hwhole : ¬20 + BUDGET_SLACK_TOKENS ≤ wholeCounter.count ninety.thought := by decide
  have hread (counter : HfTokenCounter) : completionFromStream joiningSdk
      (some { budget := 20, tokenCounter := counter }) [{ delta := some ninety }] = _ :=
    completionFromStream_thought rfl (by decide) rfl rfl
  have hcut := hread characterCounter
  have hended := hread wholeCounter
  rw [if_pos hcharacter] at hcut
  rw [if_neg hwhole] at hended
  intro h
  exact budgetAbortedCompletion_ne rfl (hcut.symm.trans (h.trans hended))

theorem cacheKey_complete_iff_reordered :
    (characterBackend "KEY").completeOnce joiningSdk thinker ping =
      (characterBackend "OTHER").completeOnce joiningSdk thinker reorderedPing := by
  have hinit (apiKeyEnv : String) : OpenaiCompletionBackend.init twoTokenizers
      (cutting "a/character" apiKeyEnv) = .ok (characterBackend apiKeyEnv) := rfl
  have hkey : (characterBackend "KEY").cacheKey Hexdigest.spelled.digest ping = .ok _ := rfl
  refine (OpenaiCompletionBackend.cacheKey_complete_iff readsThoughts_joiningSdk none
    (hinit "KEY") (hinit "OTHER") rfl hkey rfl).mpr ?_ fun _ ↦ thinker
  intro budget _ counter counter' hcounter hcounter'
  cases hcounter
  cases hcounter'
  exact fun _ ↦ ⟨Iff.rfl, fun _ ↦ rfl⟩

end HarnessTraining
