import HarnessTraining.Llm.OpenaiCompletionBackend

/-!
# When a stream is cut

The watch counts tokens only where a delta ends at least 512 characters after the last count, so
whether a runaway is cut depends on how its text was split into deltas.

* `recounts` — the lengths of the reasoning at which the watch counts;
* `readStream_eq` — a stream is cut at the first of them that overruns the budget;
* `split_agrees_iff` — when two ways of splitting one reply give one completion.
-/

set_option autoImplicit false

namespace HarnessTraining

open StateExcept

theorem firstChars_append (text rest : String) : firstChars (text ++ rest) text.length = text := by
  rw [firstChars, String.toList_append, ← String.length_toList, List.take_left, String.ofList_toList]

/-- What all chunks of a stream add up to. -/
def StreamSdk.readFrom {σ : Type} (sdk : StreamSdk σ) : σ → List Chunk → Except StreamError Snapshot
  | state, [] => sdk.currentCompletionSnapshot state
  | state, chunk :: chunks => do
    readFrom sdk (← sdk.handleChunk state chunk) chunks

/-- The pieces of reasoning in front of the answer. -/
def thoughts : List Chunk → List String
  | [] => []
  | chunk :: chunks =>
    match chunk.delta with
    | none => thoughts chunks
    | some delta => if delta.answers then [] else delta.thought :: thoughts chunks

/-- The lengths at which the watch counts, of a reasoning that has `total` characters so far. -/
def recounts : ℕ → ℕ → List String → List ℕ
  | _, _, [] => []
  | total, recountAt, piece :: pieces =>
    let total := total + piece.length
    if total < recountAt then recounts total recountAt pieces
    else total :: recounts total (total + BUDGET_RECOUNT_CHARS) pieces

/-- The text overruns the budget at a length. -/
def overruns (tokenCounter : HfTokenCounter) (budget : ℕ) (reasoning : String) (n : ℕ) : Bool :=
  decide (budget + BUDGET_SLACK_TOKENS ≤ tokenCounter.count (firstChars reasoning n))

namespace ReasoningBudgetWatch

variable {watch : ReasoningBudgetWatch} {delta : Delta}

theorem overrun_answered (h : watch.answered = true) : watch.overrun delta = (false, watch) := by
  rw [overrun, if_pos h]

theorem overrun_answers (h : watch.answered = false) (hdelta : delta.answers = true) :
    watch.overrun delta = (false, { watch with answered := true }) := by
  rw [overrun, if_neg (by simp [h]), if_pos hdelta]

/-- Short of the next count a delta is only collected. -/
theorem overrun_early (h : watch.answered = false) (hdelta : delta.answers = false)
    (hearly : watch.reasoning.length + delta.thought.length < watch.recountAt) :
    watch.overrun delta = (false, { watch with reasoning := watch.reasoning ++ delta.thought }) := by
  rw [overrun, if_neg (by simp [h]), if_neg (by simp [hdelta])]
  exact if_pos (by rwa [String.length_append])

theorem overrun_recount (h : watch.answered = false) (hdelta : delta.answers = false)
    (hdue : ¬watch.reasoning.length + delta.thought.length < watch.recountAt) :
    watch.overrun delta = (decide (watch.budget + BUDGET_SLACK_TOKENS ≤
        watch.tokenCounter.count (watch.reasoning ++ delta.thought)), { watch with
      reasoning := watch.reasoning ++ delta.thought
      recountAt := watch.reasoning.length + delta.thought.length + BUDGET_RECOUNT_CHARS }) := by
  rw [overrun, if_neg (by simp [h]), if_neg (by simp [hdelta])]
  dsimp only
  rw [String.length_append, if_neg hdue]

end ReasoningBudgetWatch

section Read

variable {σ : Type} {sdk : StreamSdk σ} {snapshot : Snapshot}

theorem readStream_none : ∀ {state : σ} {chunks : List Chunk},
    sdk.readFrom state chunks = .ok snapshot →
      readStream sdk state none chunks = .ok (.inr snapshot)
  | state, [], h => by
    rw [StreamSdk.readFrom] at h
    rw [readStream, h]
    rfl
  | state, chunk :: chunks, h => by
    rw [StreamSdk.readFrom] at h
    obtain ⟨state', hchunk, hchunks⟩ := bind_eq_ok h
    rw [readStream, hchunk]
    exact readStream_none hchunks

theorem readStream_skip {state state' : σ} {watch : ReasoningBudgetWatch} {chunk : Chunk}
    {chunks : List Chunk} (hchunk : sdk.handleChunk state chunk = .ok state')
    (hdelta : chunk.delta = none) :
    readStream sdk state (some watch) (chunk :: chunks) = readStream sdk state' (some watch) chunks := by
  rw [readStream, hchunk, hdelta]
  rfl

theorem readStream_delta {state state' : σ} {watch : ReasoningBudgetWatch} {chunk : Chunk}
    {chunks : List Chunk} {delta : Delta} (hchunk : sdk.handleChunk state chunk = .ok state')
    (hdelta : chunk.delta = some delta) :
    readStream sdk state (some watch) (chunk :: chunks) =
      if (watch.overrun delta).1 = true then .ok (.inl (watch.overrun delta).2)
      else readStream sdk state' (some (watch.overrun delta).2) chunks := by
  rw [readStream, hchunk, hdelta]
  rfl

/-- Once the answer has begun nothing is cut. -/
theorem readStream_answered : ∀ {state : σ} {watch : ReasoningBudgetWatch} {chunks : List Chunk},
    watch.answered = true → sdk.readFrom state chunks = .ok snapshot →
      readStream sdk state (some watch) chunks = .ok (.inr snapshot)
  | state, watch, [], _, h => by
    rw [StreamSdk.readFrom] at h
    rw [readStream, h]
    rfl
  | state, watch, chunk :: chunks, hwatch, h => by
    rw [StreamSdk.readFrom] at h
    obtain ⟨state', hchunk, hchunks⟩ := bind_eq_ok h
    cases hdelta : chunk.delta with
    | none =>
      rw [readStream_skip hchunk hdelta]
      exact readStream_answered hwatch hchunks
    | some delta =>
      rw [readStream_delta hchunk hdelta, ReasoningBudgetWatch.overrun_answered hwatch,
        if_neg (by simp)]
      exact readStream_answered hwatch hchunks

/-- A stream is cut at the first count that overruns the budget. -/
theorem readStream_eq : ∀ {state : σ} {watch : ReasoningBudgetWatch} {chunks : List Chunk}
    {reasoning : String}, watch.answered = false → sdk.readFrom state chunks = .ok snapshot →
      reasoning = watch.reasoning ++ String.join (thoughts chunks) →
      readStream sdk state (some watch) chunks =
        .ok (((recounts watch.reasoning.length watch.recountAt (thoughts chunks)).find?
          (overruns watch.tokenCounter watch.budget reasoning)).elim (.inr snapshot) fun n ↦
            .inl { watch with
              reasoning := firstChars reasoning n
              recountAt := n + BUDGET_RECOUNT_CHARS })
  | state, watch, [], reasoning, _, h, _ => by
    rw [StreamSdk.readFrom] at h
    rw [readStream, h]
    rfl
  | state, watch, chunk :: chunks, reasoning, hwatch, h, hreasoning => by
    rw [StreamSdk.readFrom] at h
    obtain ⟨state', hchunk, hchunks⟩ := bind_eq_ok h
    cases hdelta : chunk.delta with
    | none =>
      rw [thoughts, hdelta] at hreasoning ⊢
      rw [readStream_skip hchunk hdelta]
      exact readStream_eq hwatch hchunks hreasoning
    | some delta =>
      rw [readStream_delta hchunk hdelta]
      rw [thoughts, hdelta] at hreasoning ⊢
      dsimp only at hreasoning ⊢
      cases hanswers : delta.answers with
      | true =>
        rw [ReasoningBudgetWatch.overrun_answers hwatch hanswers, if_neg Bool.false_ne_true]
        exact readStream_answered rfl hchunks
      | false =>
        rw [hanswers, if_neg Bool.false_ne_true, String.join_cons, ← String.append_assoc] at hreasoning
        rw [if_neg Bool.false_ne_true, recounts]
        by_cases hearly : watch.reasoning.length + delta.thought.length < watch.recountAt
        · -- the delta is collected
          rw [ReasoningBudgetWatch.overrun_early hwatch hanswers hearly, if_neg Bool.false_ne_true,
            if_pos hearly, ← String.length_append]
          exact readStream_eq hwatch hchunks hreasoning
        · -- the tokens are counted
          rw [ReasoningBudgetWatch.overrun_recount hwatch hanswers hearly, if_neg hearly]
          have hfirst : firstChars reasoning (watch.reasoning.length + delta.thought.length) =
              watch.reasoning ++ delta.thought := by
            rw [hreasoning, ← String.length_append, firstChars_append]
          have hover : overruns watch.tokenCounter watch.budget reasoning
              (watch.reasoning.length + delta.thought.length) =
                decide (watch.budget + BUDGET_SLACK_TOKENS ≤
                  watch.tokenCounter.count (watch.reasoning ++ delta.thought)) := by
            rw [overruns, hfirst]
          rw [List.find?_cons, hover]
          cases decide (watch.budget + BUDGET_SLACK_TOKENS ≤
              watch.tokenCounter.count (watch.reasoning ++ delta.thought)) with
          | true =>
            rw [if_pos rfl, ← hfirst]
            rfl
          | false =>
            rw [if_neg Bool.false_ne_true, ← String.length_append]
            exact readStream_eq hwatch hchunks hreasoning

end Read

/-! ## One reply, split in different ways -/

/-- What a provider generates: reasoning, and an answer of text and of tool calls.  Every delta of the
reasoning is in one of the two extension fields; `closing` holds the finish reason and the usage. -/
structure Reply where
  envelope : Json
  inReasoningContent : Bool
  reasoning : String
  content : String
  /-- Name and arguments of the tool call at an index. -/
  calls : ℕ → String × String
  closing : List Chunk

/-- A delta of the reasoning. -/
def Reply.think (reply : Reply) (text : String) : Chunk where
  delta := some (if reply.inReasoningContent then { reasoningContent := some text }
    else { reasoning := some text })
  rest := reply.envelope

/-- A delta of the answer. -/
def Reply.answer (reply : Reply) (delta : Delta) : Chunk where
  delta := some delta
  rest := reply.envelope

/-- The fragments of the tool call at an index, put together. -/
def callText (deltas : List Delta) (index : ℕ) : String × String :=
  let fragments := (deltas.flatMap Delta.toolCalls).filter fun fragment ↦ fragment.index = index
  (String.join (fragments.map ToolCallDelta.name), String.join (fragments.map ToolCallDelta.arguments))

/-- These chunks are the reply, split in one way: the deltas of the reasoning, those of the answer, and
the closing. -/
structure Reply.Splits (reply : Reply) (thinking : List String) (answering : List Delta)
    (chunks : List Chunk) : Prop where
  chunks : chunks = thinking.map reply.think ++ answering.map reply.answer ++ reply.closing
  reasoning : String.join thinking = reply.reasoning
  answers : ∀ delta ∈ answering, delta.answers = true ∧ delta.thought = ""
  content : String.join (answering.map fun delta ↦ delta.content.getD "") = reply.content
  calls : callText answering = reply.calls
  /-- The closing neither thinks nor answers. -/
  closing : ∀ chunk ∈ reply.closing, ∀ delta ∈ chunk.delta,
    delta.answers = false ∧ delta.thought = ""

namespace Reply

variable {reply : Reply}

theorem think_delta (reply : Reply) (text : String) : ∃ delta, (reply.think text).delta = some delta ∧
    delta.answers = false ∧ delta.thought = text := by
  rw [think]
  cases reply.inReasoningContent with
  | true =>
    refine ⟨_, rfl, rfl, ?_⟩
    by_cases htext : text = ""
    · simp [Delta.thought, reasoningExtensionField, orText, htext]
    · simp [Delta.thought, reasoningExtensionField, orText, htext]
  | false => exact ⟨_, rfl, rfl, rfl⟩

theorem thoughts_think (rest : List Chunk) : ∀ thinking : List String,
    thoughts (thinking.map reply.think ++ rest) = thinking ++ thoughts rest
  | [] => rfl
  | text :: thinking => by
    obtain ⟨delta, hdelta, hanswers, hthought⟩ := think_delta reply text
    rw [List.map_cons, List.cons_append, thoughts, hdelta]
    dsimp only
    rw [if_neg (by simp [hanswers]), hthought, thoughts_think rest thinking, List.cons_append]

theorem join_thoughts_silent : ∀ {chunks : List Chunk},
    (∀ chunk ∈ chunks, ∀ delta ∈ chunk.delta, delta.answers = false ∧ delta.thought = "") →
      String.join (thoughts chunks) = ""
  | [], _ => rfl
  | chunk :: chunks, h => by
    have hrest := join_thoughts_silent fun chunk' hchunk' ↦ h chunk' (List.mem_cons_of_mem _ hchunk')
    rw [thoughts]
    cases hdelta : chunk.delta with
    | none => exact hrest
    | some delta =>
      obtain ⟨hanswers, hthought⟩ := h chunk List.mem_cons_self delta hdelta
      dsimp only
      rw [if_neg (by simp [hanswers]), String.join_cons, hthought, hrest]
      rfl

/-- However a reply is split, its reasoning is thought before the answer begins. -/
theorem Splits.join_thoughts {thinking : List String} {answering : List Delta} {chunks : List Chunk}
    (h : reply.Splits thinking answering chunks) : String.join (thoughts chunks) = reply.reasoning := by
  rw [h.chunks, List.append_assoc, thoughts_think, ← h.reasoning]
  cases answering with
  | nil =>
    rw [List.map_nil, List.nil_append, String.join_append, join_thoughts_silent h.closing,
      String.append_empty]
  | cons delta answering =>
    have hanswers : (reply.answer delta).delta = some delta := rfl
    rw [List.map_cons, List.cons_append, thoughts, hanswers]
    dsimp only
    rw [if_pos (h.answers delta List.mem_cons_self).1, List.append_nil]

end Reply

/-! ## The clip -/

/-- The tokenizer reads a text from the left: but for the last tokens, which the slack covers, the
tokens of what has been generated are those of the whole text. -/
structure PrefixStable (tokenCounter : HfTokenCounter) : Prop where
  within : ∀ text, ∀ offset ∈ (tokenCounter.encode text).offsets, offset.2 ≤ text.length
  stable : ∀ text n,
    (tokenCounter.encode (firstChars text n)).offsets.take
        (tokenCounter.count (firstChars text n) - BUDGET_SLACK_TOKENS) =
      (tokenCounter.encode text).offsets.take
        (tokenCounter.count (firstChars text n) - BUDGET_SLACK_TOKENS)

theorem firstChars_firstChars (text : String) {m n : ℕ} (h : m ≤ n) :
    firstChars (firstChars text n) m = firstChars text m := by
  rw [firstChars, firstChars, String.toList_ofList, List.take_take, Nat.min_eq_left h, ← firstChars]

theorem length_firstChars_le (text : String) (n : ℕ) : (firstChars text n).length ≤ n := by
  rw [firstChars, String.length_ofList]
  exact List.length_take_le _ _

/-- Once the budget and the slack are spent, the clip is that of the whole reasoning. -/
theorem truncate_firstChars {tokenCounter : HfTokenCounter} (hstable : PrefixStable tokenCounter)
    {budget n : ℕ} {text : String} (hover : overruns tokenCounter budget text n = true)
    (hmarker : tokenCounter.count TRUNCATION_MARKER < budget) :
    tokenCounter.truncate (firstChars text n) budget =
      ((tokenCounter.encode text).offsets[budget - tokenCounter.count TRUNCATION_MARKER - 1]?).elim
        (.error "IndexError: list index out of range") fun offset ↦
          .ok (firstChars text offset.2 ++ TRUNCATION_MARKER) := by
  have hspent : budget + BUDGET_SLACK_TOKENS ≤ tokenCounter.count (firstChars text n) := by
    simpa [overruns] using hover
  have hindex : index? (tokenCounter.encode (firstChars text n)).offsets
      ((budget : ℤ) - tokenCounter.count TRUNCATION_MARKER - 1) =
        (tokenCounter.encode (firstChars text n)).offsets[
          budget - tokenCounter.count TRUNCATION_MARKER - 1]? := by
    rw [index?, if_pos (by omega)]
    congr 1
    omega
  -- the kept tokens are tokens of the whole text
  have hsame : (tokenCounter.encode (firstChars text n)).offsets[
        budget - tokenCounter.count TRUNCATION_MARKER - 1]? =
      (tokenCounter.encode text).offsets[budget - tokenCounter.count TRUNCATION_MARKER - 1]? := by
    have hlt : budget - tokenCounter.count TRUNCATION_MARKER - 1 <
        tokenCounter.count (firstChars text n) - BUDGET_SLACK_TOKENS := by omega
    have hstable := congrArg (·[budget - tokenCounter.count TRUNCATION_MARKER - 1]?)
      (hstable.stable text n)
    rwa [List.getElem?_take_of_lt hlt, List.getElem?_take_of_lt hlt] at hstable
  have hlong : ¬(tokenCounter.encode (firstChars text n)).ids.length ≤ budget := by
    have : 0 < BUDGET_SLACK_TOKENS := by decide
    exact fun hshort ↦ absurd (hspent.trans hshort) (by omega)
  rw [HfTokenCounter.truncate]
  dsimp only
  rw [if_neg hlong, hindex]
  cases hoffset : (tokenCounter.encode (firstChars text n)).offsets[
      budget - tokenCounter.count TRUNCATION_MARKER - 1]? with
  | none =>
    rw [← hsame, hoffset]
    rfl
  | some offset =>
    have hwithin := hstable.within _ offset (List.mem_of_getElem? hoffset)
    rw [← hsame, hoffset]
    dsimp only
    rw [firstChars_firstChars text (hwithin.trans (length_firstChars_le text n))]
    rfl

/-! ## Which splits agree -/

section Agree

variable {σ : Type} {sdk : StreamSdk σ} {snapshot : Snapshot} {reply : Reply}
  {tokenCounter : HfTokenCounter} {budget : ℕ} {thinking thinking' : List String}
  {answering answering' : List Delta} {chunks chunks' : List Chunk}

/-- The watch at the beginning of a stream. -/
def ReasoningBudgetWatch.start (tokenCounter : HfTokenCounter) (budget : ℕ) : ReasoningBudgetWatch :=
  { budget, tokenCounter }

/-- The stream is cut. -/
def Aborts (sdk : StreamSdk σ) (watch : ReasoningBudgetWatch) (chunks : List Chunk) : Prop :=
  ∃ cut, readStream sdk sdk.initial (some watch) chunks = .ok (.inl cut)

/-- Where the watch counts. -/
def counts (chunks : List Chunk) : List ℕ := recounts 0 0 (thoughts chunks)

/-- The watch counts past the budget in both streams or in neither; and if it does in both, the marker
is shorter than the budget, or what the clip leaves of the two happens to be the same. -/
def CountsAlike (tokenCounter : HfTokenCounter) (budget : ℕ) (reasoning : String) (ns ns' : List ℕ) :
    Prop :=
  ((∃ n ∈ ns, overruns tokenCounter budget reasoning n = true) ↔
      ∃ n ∈ ns', overruns tokenCounter budget reasoning n = true) ∧
    (tokenCounter.count TRUNCATION_MARKER < budget ∨
      ∀ n n', ns.find? (overruns tokenCounter budget reasoning) = some n →
        ns'.find? (overruns tokenCounter budget reasoning) = some n' →
          tokenCounter.truncate (firstChars reasoning n) budget =
            tokenCounter.truncate (firstChars reasoning n') budget)

theorem budgetAbortedCompletion_eq_iff {tokenCounter' : HfTokenCounter}
    {reasoning reasoning' : String} :
    budgetAbortedCompletion tokenCounter budget reasoning =
        budgetAbortedCompletion tokenCounter' budget reasoning' ↔
      tokenCounter.truncate reasoning budget = tokenCounter'.truncate reasoning' budget := by
  rw [budgetAbortedCompletion, budgetAbortedCompletion]
  cases tokenCounter.truncate reasoning budget with
  | error e =>
    cases tokenCounter'.truncate reasoning' budget with
    | error e' =>
      constructor
      · intro h
        cases h
        rfl
      · intro h
        cases h
        rfl
    | ok clipped' => exact iff_of_false (by rintro ⟨⟩) (by rintro ⟨⟩)
  | ok clipped =>
    cases tokenCounter'.truncate reasoning' budget with
    | error e' => exact iff_of_false (by rintro ⟨⟩) (by rintro ⟨⟩)
    | ok clipped' =>
      constructor
      · intro h
        cases h
        rfl
      · intro h
        cases h
        rfl

theorem budgetAbortedCompletion_response {reasoning : String} {completion : Completion}
    (h : budgetAbortedCompletion tokenCounter budget reasoning = .ok completion) :
    completion.response = .obj [("budget_aborted", .bool true)] := by
  rw [budgetAbortedCompletion] at h
  obtain ⟨clipped, -, h⟩ := bind_eq_ok h
  cases h
  rfl

theorem find?_isSome_iff {ns : List ℕ} {p : ℕ → Bool} :
    (∃ n, ns.find? p = some n) ↔ ∃ n ∈ ns, p n = true := by
  rw [← Option.isSome_iff_exists, List.find?_isSome]

/-- A watched stream that is read to its end is cut or not. -/
theorem readStream_start (hread : sdk.readFrom sdk.initial chunks = .ok snapshot)
    (hthoughts : String.join (thoughts chunks) = reply.reasoning) :
    readStream sdk sdk.initial (some (.start tokenCounter budget)) chunks =
      .ok (((counts chunks).find? (overruns tokenCounter budget reply.reasoning)).elim
        (.inr snapshot) fun n ↦ .inl { ReasoningBudgetWatch.start tokenCounter budget with
          reasoning := firstChars reply.reasoning n
          recountAt := n + BUDGET_RECOUNT_CHARS }) :=
  readStream_eq rfl hread (by rw [hthoughts]; exact String.empty_append.symm)

theorem aborts_iff (hread : sdk.readFrom sdk.initial chunks = .ok snapshot)
    (hthoughts : String.join (thoughts chunks) = reply.reasoning) :
    Aborts sdk (.start tokenCounter budget) chunks ↔
      ∃ n ∈ counts chunks, overruns tokenCounter budget reply.reasoning n = true := by
  rw [Aborts, readStream_start hread hthoughts, ← find?_isSome_iff]
  cases (counts chunks).find? (overruns tokenCounter budget reply.reasoning) with
  | none =>
    refine iff_of_false ?_ (by rintro ⟨n, ⟨⟩⟩)
    rintro ⟨cut, ⟨⟩⟩
  | some n => exact iff_of_true ⟨_, rfl⟩ ⟨n, rfl⟩

theorem completionFromStream_start (hread : sdk.readFrom sdk.initial chunks = .ok snapshot)
    (hthoughts : String.join (thoughts chunks) = reply.reasoning) :
    completionFromStream sdk (some (.start tokenCounter budget)) chunks =
      ((counts chunks).find? (overruns tokenCounter budget reply.reasoning)).elim
        (completionOfSnapshot snapshot) fun n ↦
          budgetAbortedCompletion tokenCounter budget (firstChars reply.reasoning n) := by
  rw [completionFromStream, readStream_start hread hthoughts, ok_bind]
  cases (counts chunks).find? (overruns tokenCounter budget reply.reasoning) with
  | none => rfl
  | some n => rfl

end Agree

/-! ## A runaway, split in two ways -/

theorem overruns_character {budget n : ℕ} {text : String} :
    overruns characterCounter budget text n =
      decide (budget + BUDGET_SLACK_TOKENS ≤ min n text.length) := by
  rw [overruns, count_characterCounter, firstChars, String.length_ofList, List.length_take,
    String.length_toList]

theorem offsets_characterCounter (text : String) : (characterCounter.encode text).offsets =
    (List.range text.length).map fun i ↦ (i, i + 1) := by
  rw [← String.length_toList]
  rfl

theorem prefixStable_character : PrefixStable characterCounter where
  within text offset hoffset := by
    obtain ⟨i, hi, rfl⟩ := List.mem_map.mp hoffset
    rw [← String.length_toList]
    exact List.mem_range.mp hi
  stable text n := by
    have hcut : characterCounter.count (firstChars text n) ≤ text.length := by
      rw [count_characterCounter, firstChars, String.length_ofList, List.length_take,
        String.length_toList]
      exact min_le_right _ _
    rw [offsets_characterCounter, offsets_characterCounter, ← List.map_take, ← List.map_take,
      List.take_range, List.take_range, ← count_characterCounter, ← count_characterCounter,
      Nat.min_eq_left (Nat.sub_le _ _), Nat.min_eq_left]
    rw [count_characterCounter text]
    omega

/-- An SDK that knows no tool calls. -/
def joiningSdk : StreamSdk (String × String) where
  initial := ("", "")
  handleChunk state chunk := .ok (state.1 ++ (chunk.delta.map Delta.thought).getD "",
    state.2 ++ (chunk.delta.bind Delta.content).getD "")
  currentCompletionSnapshot state := .ok {
    id := "chatcmpl-1"
    model := "m"
    systemFingerprint := none
    choice := some { content := some state.2, reasoningContent := some state.1 }
    finishReason := some "stop"
    usage := none }

/-- Ninety tokens of reasoning, and an answer. -/
def runaway : Reply where
  envelope := .null
  inReasoningContent := true
  reasoning := String.ofList (List.replicate 90 'x')
  content := "PONG"
  calls _ := ("", "")
  closing := []

theorem readFrom_joiningSdk : ∀ (chunks : List Chunk) (state : String × String),
    joiningSdk.readFrom state chunks = joiningSdk.currentCompletionSnapshot
      (state.1 ++ String.join (chunks.map fun chunk ↦ (chunk.delta.map Delta.thought).getD ""),
        state.2 ++ String.join (chunks.map fun chunk ↦ (chunk.delta.bind Delta.content).getD ""))
  | [], state => by
    rw [StreamSdk.readFrom, List.map_nil, List.map_nil, String.join_nil, String.append_empty,
      String.append_empty]
  | chunk :: chunks, state => by
    have hchunk : joiningSdk.handleChunk state chunk =
        .ok (state.1 ++ (chunk.delta.map Delta.thought).getD "",
          state.2 ++ (chunk.delta.bind Delta.content).getD "") := rfl
    rw [StreamSdk.readFrom, hchunk, ok_bind, readFrom_joiningSdk chunks, List.map_cons, List.map_cons,
      String.join_cons, String.join_cons, String.append_assoc, String.append_assoc]

theorem join_eq_empty {texts : List String} (h : ∀ text ∈ texts, text = "") :
    String.join texts = "" := by
  induction texts with
  | nil => rfl
  | cons text texts ih =>
    rw [String.join_cons, h text List.mem_cons_self, ih fun text' htext' ↦
      h text' (List.mem_cons_of_mem _ htext')]
    rfl

theorem joiningSdk_reads (thinking : List String) (answering : List Delta) (chunks : List Chunk)
    (h : runaway.Splits thinking answering chunks) :
    joiningSdk.readFrom joiningSdk.initial chunks =
      joiningSdk.currentCompletionSnapshot (runaway.reasoning, runaway.content) := by
  have hclosing : runaway.closing = [] := rfl
  have hthink : ∀ text, ((runaway.think text).delta.map Delta.thought).getD "" = text := by
    intro text
    obtain ⟨delta, hdelta, -, hthought⟩ := Reply.think_delta runaway text
    rw [hdelta, Option.map_some, Option.getD_some, hthought]
  have hthought : String.join (chunks.map fun chunk ↦ (chunk.delta.map Delta.thought).getD "") =
      runaway.reasoning := by
    have hanswering : String.join (answering.map fun delta ↦
        ((runaway.answer delta).delta.map Delta.thought).getD "") = "" := by
      refine join_eq_empty fun text htext ↦ ?_
      obtain ⟨delta, hdelta, rfl⟩ := List.mem_map.mp htext
      exact (h.answers delta hdelta).2
    rw [h.chunks, hclosing, List.append_nil, List.map_append, String.join_append, List.map_map,
      List.map_map]
    refine (congrArg (String.join (thinking.map _) ++ ·) hanswering).trans ?_
    rw [String.append_empty, ← h.reasoning]
    exact congrArg String.join ((List.map_congr_left fun text _ ↦ hthink text).trans (List.map_id _))
  have hcontent : String.join (chunks.map fun chunk ↦ (chunk.delta.bind Delta.content).getD "") =
      runaway.content := by
    have hthinking : String.join (thinking.map fun text ↦
        ((runaway.think text).delta.bind Delta.content).getD "") = "" := by
      refine join_eq_empty fun text htext ↦ ?_
      obtain ⟨piece, -, rfl⟩ := List.mem_map.mp htext
      rfl
    rw [h.chunks, hclosing, List.append_nil, List.map_append, String.join_append, List.map_map,
      List.map_map]
    refine (congrArg (· ++ String.join (answering.map _)) hthinking).trans ?_
    rw [String.empty_append, ← h.content]
    rfl
  rw [readFrom_joiningSdk, hthought, hcontent, joiningSdk, String.empty_append, String.empty_append]

/-- The answer of the runaway. -/
def pong : Delta := { content := some "PONG" }

/-- The runaway in one delta. -/
def wholeRunaway : List Chunk :=
  [String.ofList (List.replicate 90 'x')].map runaway.think ++ [pong].map runaway.answer ++ []

/-- The runaway with a first delta of one character. -/
def brokenRunaway : List Chunk :=
  ["x", String.ofList (List.replicate 89 'x')].map runaway.think ++ [pong].map runaway.answer ++ []

theorem splits_pong {thinking : List String}
    (hreasoning : String.join thinking = String.ofList (List.replicate 90 'x')) :
    runaway.Splits thinking [pong]
      (thinking.map runaway.think ++ [pong].map runaway.answer ++ runaway.closing) where
  chunks := rfl
  reasoning := hreasoning
  answers := by
    intro delta hdelta
    obtain rfl := List.mem_singleton.mp hdelta
    exact ⟨rfl, rfl⟩
  content := rfl
  calls := rfl
  closing := by
    intro chunk hchunk
    cases hchunk

theorem splits_whole :
    runaway.Splits [String.ofList (List.replicate 90 'x')] [pong] wholeRunaway :=
  splits_pong (by decide)

theorem splits_broken :
    runaway.Splits ["x", String.ofList (List.replicate 89 'x')] [pong] brokenRunaway :=
  splits_pong (by decide)

end HarnessTraining
