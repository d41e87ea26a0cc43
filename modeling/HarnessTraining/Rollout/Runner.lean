import HarnessTraining.Rollout.Balance
import HarnessTraining.Rollout.Metrics

/-!
# One measured rollout

`RolloutRunner` of `src/rollout/episode.py`: build the policy, run the episode loop, close the
resources whatever happened, and grade the outcome.

* `RolloutRunner.run` — the whole rollout.
* `RolloutRunner.conclude_ok` — the grade is always a valid record, and is refused only for a verdict
  that is missing or a metric that is published twice.
-/

set_option autoImplicit false

namespace HarnessTraining

open StateExcept

/-! ## Metrics -/

/-- What the telemetry of one rollout has counted. -/
structure RolloutTelemetry where
  firstAttemptValid : ℕ := 0
  firstAttemptTotal : ℕ := 0
  /-- The number of live completions, the sum of their latencies, and the median. -/
  liveLatencies : Option (ℕ × ℚ × ℚ) := none
  /-- The first quartile of the output rates, from three of them on. -/
  p25LiveRate : Option ℚ := none
  parseFailures : List (String × ℕ) := []

def liveLlmCallsKey : String := "live_llm_calls"
def sumLiveLlmLatencySecKey : String := "sum_live_llm_latency_sec"
def medianLiveLlmLatencySecKey : String := "median_live_llm_latency_sec"
def p25LiveOutputTokensPerSecKey : String := "p25_live_output_tokens_per_sec"

abbrev RolloutMetrics := AList fun _ : String ↦ ℚ

/-- A dictionary, entry by entry. -/
def RolloutMetrics.ofEntries (entries : List (String × ℚ)) : RolloutMetrics :=
  entries.foldl (fun metrics entry ↦ AList.insert entry.1 entry.2 metrics) ∅

/-- `RolloutTelemetry.metrics`. -/
def RolloutTelemetry.metrics (telemetry : RolloutTelemetry) : RolloutMetrics :=
  .ofEntries (
    (if telemetry.firstAttemptTotal = 0 then [] else [
      (firstAttemptValidKey, (telemetry.firstAttemptValid : ℚ)),
      (firstAttemptTotalKey, (telemetry.firstAttemptTotal : ℚ))]) ++
    (match telemetry.liveLatencies with
      | none => []
      | some (calls, sum, median) => [
        (liveLlmCallsKey, (calls : ℚ)),
        (sumLiveLlmLatencySecKey, sum),
        (medianLiveLlmLatencySecKey, median)]) ++
    (match telemetry.p25LiveRate with
      | none => []
      | some rate => [(p25LiveOutputTokensPerSecKey, rate)]) ++
    telemetry.parseFailures.map fun failure ↦ ("parse_failures." ++ failure.1, (failure.2 : ℚ)))

/-- The metrics of a transition, as a mapping. -/
def Metrics.toAList (metrics : Metrics) : RolloutMetrics where
  entries := metrics.members.map fun member ↦ ⟨member.1, member.2.toRat⟩
  nodupKeys := by
    rw [List.NodupKeys, List.keys, List.map_map]
    exact (List.pairwise_map.mpr metrics.increasing).imp ne_of_lt

/-- `_merge_metrics`, of one more source. -/
def mergeMetrics (merged source : RolloutMetrics) : Except LoopError RolloutMetrics :=
  let duplicates := merged.keys.filter fun key ↦ key ∈ source.keys
  if duplicates = [] then .ok (merged ∪ source)
  else .error (.foreign ("ValueError: duplicate rollout metric keys: [" ++
    ", ".intercalate ((duplicates.mergeSort (fun key key' ↦ decide (key ≤ key'))).map
      fun key ↦ s!"'{key}'") ++ "]"))

/-! ## Classification -/

/-- `_Outcome`: one rollout's classified outcome. -/
structure ClassifiedOutcome where
  failureMode : FailureMode
  origin : Option FailureOrigin := none
  reward : Option Number := none
  error : Option String := none
  deriving DecidableEq

/-- `RolloutRunner._classify_loop_result`. -/
def classifyLoopResult (outcome : LoopOutcome) : Except LoopError ClassifiedOutcome :=
  match outcome.ending, outcome.final with
  | .submitted, some final =>
    if final.truncated then
      .ok { failureMode := .verifyTimeout, reward := some final.reward }
    else match final.verdict with
      | none => .error (.foreign "RuntimeError: submit produced no verifier verdict")
      | some verdict =>
        if verdict.completed then
          .ok {
            failureMode := if verdict.passed = some true then .solved else .verifiedRejected
            reward := some final.reward }
        else .ok { failureMode := .crash, origin := some .env, error := verdict.error }
  | .budget, some final => .ok { failureMode := .hitTimeout, reward := some final.reward }
  -- these endings carry a final transition
  | .submitted, none | .budget, none =>
    .error (.foreign "AttributeError: 'NoneType' object has no attribute")
  | .gaveUp, _ => .ok { failureMode := .noValidAction, error := outcome.error }
  | .stepCap, none => .ok { failureMode := .noValidAction }
  | .stepCap, some final => .ok { failureMode := .hitStepCap, reward := some final.reward }
  | .setupTimeout, _ => .ok { failureMode := .crash, origin := some .env }
  | .taskTimeout, _ | .stallTimeout, _ => .ok { failureMode := .hitTimeout, error := outcome.error }
  | .unscorableInfra, _ => .ok { failureMode := .unscorableInfra, error := outcome.error }
  | .crash, _ => .ok { failureMode := .crash, origin := outcome.origin, error := outcome.error }

/-- What `_close_resources` reports. -/
def closeError : CloseAnswer → Option String
  | .timedOut => some "resource close timed out after 180s"
  | .closed env llm =>
    match [env, llm].reduceOption with
    | [] => none
    | errors => some ("resource close failed: " ++ "; ".intercalate errors)

/-- A resource that does not close is a crash of the environment. -/
def ClassifiedOutcome.closing (outcome : ClassifiedOutcome) : Option String → ClassifiedOutcome
  | none => outcome
  | some text => { outcome with
      failureMode := .crash
      origin := some .env
      error := some (match outcome.error with
        | none => text
        | some error => s!"{error}; {text}") }

/-- Build the record, which validates itself. -/
def RolloutResult.create (taskId : TaskId) (failureMode : FailureMode)
    (failureOrigin : Option FailureOrigin) (error : Option String) (metrics : RolloutMetrics) :
    Except LoopError RolloutResult :=
  if horigin : failureMode = .crash ↔ failureOrigin.isSome = true then
    if herror : error.isSome = true → failureMode ≠ .solved then
      .ok { taskId, failureMode, failureOrigin, error, metrics, origin_iff := horigin,
            error_unsolved := herror }
    else .error (.foreign "ValidationError: errored rollouts cannot be solved")
  else .error (.foreign
    "ValidationError: failure_origin must be present exactly for crash results")

/-! ## The runner -/

structure RolloutRunner (A σ : Type) where
  taskId : TaskId
  executor : StepExecutor A σ
  maxSteps : ℕ
  stallTimeoutSec : ℚ
  /-- What the telemetry has counted.  The completions and parse failures it counts happen inside the
  calls of the policy. -/
  telemetry : List (Event A) → RolloutTelemetry

namespace RolloutRunner

def rewardKey : String := "reward"

variable {A σ : Type} (u : Unicode) (world : World A) (runner : RolloutRunner A σ)

/-- The metrics of the episode itself. -/
def episodeMetrics (outcome : LoopOutcome) (classified : ClassifiedOutcome) : RolloutMetrics :=
  .ofEntries (
    (match outcome.stepsTaken with
      | none => []
      | some steps => [(stepsUsedKey, (steps : ℚ))]) ++
    match classified.reward with
      | none => []
      | some reward => [(rewardKey, reward.toRat)])

/-- Everything after the resources are closed. -/
def conclude (telemetry : RolloutTelemetry) (outcome : LoopOutcome) (closing : Option String) :
    Except LoopError RolloutResult := do
  let classified ← classifyLoopResult outcome
  let closed := classified.closing closing
  let metrics ← mergeMetrics (episodeMetrics outcome classified) telemetry.metrics
  let metrics ← mergeMetrics metrics (match outcome.final with
    | none => ∅
    | some final => final.metrics.toAList)
  RolloutResult.create runner.taskId closed.failureMode closed.origin closed.error metrics

/-- Build the policy, and run the episode loop with it. -/
def buildAndLoop : LoopM A σ LoopOutcome := do
  match ← perform .build world.build with
  | .ok none => runTaskLoop u world runner.executor runner.maxSteps runner.stallTimeoutSec
  | .ok (some typeName) =>
    return .crashed .policy s!"TypeError: build_policy returned {typeName}, not a Policy"
  | .error error =>
    match policyBoundary error with
    | .policyBoundary text => return .crashed .policy text
    | .envBoundary text => return .crashed .env text
    | error => throw error

/-- Close the resources and write the action chain. -/
def cleanUp : LoopM A σ (Option String) := do
  let answer ← perform .close world.close
  let rollout ← get
  match ← perform (.writeChain rollout.actionChain) fun trace ↦
      world.writeChain trace rollout.actionChain with
  | .ok () => return closeError answer
  | .error text => throw (.foreign text)

/-- `RolloutRunner.run`. -/
def run : LoopM A σ RolloutResult := do
  let outcome ← tryCatch (buildAndLoop u world runner) fun error ↦ do
    let _ ← cleanUp world
    throw error
  let closing ← cleanUp world
  let rollout ← get
  match runner.conclude (runner.telemetry rollout.trace) outcome closing with
  | .ok result => return result
  | .error error => throw error

end RolloutRunner

/-! ## The record is always valid -/

/-- The keys the framework publishes. -/
def FrameworkKey (key : String) : Prop :=
  key ∈ [stepsUsedKey, RolloutRunner.rewardKey, firstAttemptValidKey, firstAttemptTotalKey,
    liveLlmCallsKey, sumLiveLlmLatencySecKey, medianLiveLlmLatencySecKey,
    p25LiveOutputTokensPerSecKey] ∨ ∃ error, key = "parse_failures." ++ error

theorem mergeMetrics_ok {merged source : RolloutMetrics} (h : ∀ key ∈ merged, key ∉ source) :
    mergeMetrics merged source = .ok (merged ∪ source) := by
  have hduplicates : merged.keys.filter (fun key ↦ decide (key ∈ source.keys)) = [] :=
    List.filter_eq_nil_iff.mpr fun key hkey ↦ by
      simpa [AList.mem_keys] using h key hkey
  rw [mergeMetrics]
  exact if_pos hduplicates

/-- A key of the telemetry: the framework's, but not the episode's. -/
def TelemetryKey (key : String) : Prop :=
  FrameworkKey key ∧ key ≠ stepsUsedKey ∧ key ≠ RolloutRunner.rewardKey

theorem telemetryKey_parseFailures (error : String) : TelemetryKey ("parse_failures." ++ error) := by
  have hhead : ("parse_failures." ++ error).toList.head? = some 'p' := by
    rw [String.toList_append]
    rfl
  refine ⟨Or.inr ⟨error, rfl⟩, fun h ↦ ?_, fun h ↦ ?_⟩
  · rw [h] at hhead
    cases hhead
  · rw [h] at hhead
    cases hhead

theorem RolloutMetrics.mem_ofEntries {entries : List (String × ℚ)} {key : String}
    (h : key ∈ RolloutMetrics.ofEntries entries) : key ∈ entries.map Prod.fst := by
  have hfold : ∀ (entries : List (String × ℚ)) (metrics : RolloutMetrics),
      key ∈ entries.foldl (fun metrics entry ↦ AList.insert entry.1 entry.2 metrics) metrics →
        key ∈ metrics ∨ key ∈ entries.map Prod.fst := by
    intro entries
    induction entries with
    | nil => exact fun _ h ↦ Or.inl h
    | cons entry entries ih =>
      intro metrics h
      rw [List.map_cons, List.mem_cons]
      rcases ih _ h with h | h
      · exact (AList.mem_insert metrics).mp h |>.elim (fun h ↦ Or.inr (Or.inl h)) Or.inl
      · exact Or.inr (Or.inr h)
  exact (hfold entries ∅ h).resolve_left (AList.notMem_empty key)

theorem RolloutTelemetry.telemetryKey {telemetry : RolloutTelemetry} {key : String}
    (h : key ∈ telemetry.metrics) : TelemetryKey key := by
  have hfixed : ∀ key ∈ [firstAttemptValidKey, firstAttemptTotalKey, liveLlmCallsKey,
      sumLiveLlmLatencySecKey, medianLiveLlmLatencySecKey, p25LiveOutputTokensPerSecKey],
      TelemetryKey key := by
    intro key hkey
    refine ⟨Or.inl (List.mem_cons_of_mem _ (List.mem_cons_of_mem _ hkey)), ?_⟩
    revert key
    decide
  have hkey := RolloutMetrics.mem_ofEntries h
  rw [List.map_append, List.map_append, List.map_append, List.mem_append, List.mem_append,
    List.mem_append] at hkey
  rcases hkey with ((hkey | hkey) | hkey) | hkey
  · refine hfixed key ?_
    split at hkey <;> simp_all
    tauto
  · refine hfixed key ?_
    split at hkey <;> simp_all
    tauto
  · refine hfixed key ?_
    split at hkey <;> simp_all
  · obtain ⟨failure, hfailure, rfl⟩ := List.mem_map.mp hkey
    obtain ⟨failure, -, rfl⟩ := List.mem_map.mp hfailure
    exact telemetryKey_parseFailures failure.1

namespace RolloutRunner

variable {A σ : Type} {runner : RolloutRunner A σ}

theorem mem_episodeMetrics {outcome : LoopOutcome} {classified : ClassifiedOutcome} {key : String}
    (h : key ∈ episodeMetrics outcome classified) : key = stepsUsedKey ∨ key = rewardKey := by
  have hkey := RolloutMetrics.mem_ofEntries h
  rw [List.map_append, List.mem_append] at hkey
  rcases hkey with hkey | hkey
  · refine Or.inl ?_
    split at hkey <;> simp_all
  · refine Or.inr ?_
    split at hkey <;> simp_all

end RolloutRunner

/-- A classified outcome has an owner exactly if it is a crash, and no error if it is a solve. -/
def ClassifiedOutcome.WellFormed (outcome : ClassifiedOutcome) : Prop :=
  (outcome.failureMode = .crash ↔ outcome.origin.isSome = true) ∧
    (outcome.error.isSome = true → outcome.failureMode ≠ .solved)

theorem ClassifiedOutcome.WellFormed.closing {outcome : ClassifiedOutcome} (h : outcome.WellFormed)
    (closing : Option String) : (outcome.closing closing).WellFormed := by
  cases closing with
  | none => exact h
  | some text => exact ⟨iff_of_true rfl rfl, by simp [ClassifiedOutcome.closing]⟩

/-- A crash of the loop has an owner. -/
def LoopOutcome.Owned (outcome : LoopOutcome) : Prop :=
  outcome.ending = .crash → outcome.origin.isSome = true

/-- Every ending is classified into a well-formed outcome, unless a submit has no verdict. -/
theorem classifyLoopResult_spec {outcome : LoopOutcome} (howned : outcome.Owned)
    (hverdict : outcome.ending = .submitted →
      ∀ final ∈ outcome.final, final.truncated = true ∨ final.verdict.isSome = true) :
    ∃ classified, classifyLoopResult outcome = .ok classified ∧ classified.WellFormed := by
  obtain ⟨ending, final, stepsTaken, origin, error, valid⟩ := outcome
  cases ending with
  | submitted =>
    cases final with
    | none => cases valid (Or.inl rfl)
    | some final =>
      rw [classifyLoopResult]
      dsimp only
      split
      · exact ⟨_, rfl, iff_of_false (by simp) (by simp), by simp⟩
      · next htruncated =>
        have hsome := (hverdict rfl final rfl).resolve_left htruncated
        obtain ⟨verdict, hfinal⟩ := Option.isSome_iff_exists.mp hsome
        rw [hfinal]
        dsimp only
        split
        · refine ⟨_, rfl, iff_of_false ?_ (by simp), by simp⟩
          dsimp only
          split <;> simp
        · exact ⟨_, rfl, iff_of_true rfl rfl, by simp⟩
  | budget =>
    cases final with
    | none => cases valid (Or.inr rfl)
    | some final => exact ⟨_, rfl, iff_of_false (by simp) (by simp), by simp⟩
  | stepCap => cases final <;> exact ⟨_, rfl, iff_of_false (by simp) (by simp), by simp⟩
  | setupTimeout => exact ⟨_, rfl, iff_of_true rfl rfl, by simp⟩
  | crash => exact ⟨_, rfl, iff_of_true rfl (howned rfl), by simp⟩
  | gaveUp | taskTimeout | stallTimeout | unscorableInfra =>
    exact ⟨_, rfl, iff_of_false (by simp) (by simp), by simp⟩

namespace RolloutRunner

variable {A σ : Type} {runner : RolloutRunner A σ} {telemetry : RolloutTelemetry}
  {outcome : LoopOutcome} {closing : Option String}

/-- The record says what the classification and the closing say. -/
theorem conclude_eq_ok {result : RolloutResult}
    (h : runner.conclude telemetry outcome closing = .ok result) :
    ∃ classified, classifyLoopResult outcome = .ok classified ∧
      result.failureMode = (classified.closing closing).failureMode ∧
      result.failureOrigin = (classified.closing closing).origin ∧
      result.error = (classified.closing closing).error := by
  rw [conclude] at h
  obtain ⟨classified, hclassify, h⟩ := bind_eq_ok h
  obtain ⟨_, -, h⟩ := bind_eq_ok h
  obtain ⟨_, -, h⟩ := bind_eq_ok h
  refine ⟨classified, hclassify, ?_⟩
  rw [RolloutResult.create] at h
  split at h
  · split at h
    · cases h
      exact ⟨rfl, rfl, rfl⟩
    · cases h
  · cases h

/-- A well-formed outcome is recorded if the environment publishes no key of the framework. -/
theorem conclude_exists (runner : RolloutRunner A σ) (telemetry : RolloutTelemetry)
    (closing : Option String) {classified : ClassifiedOutcome}
    (hclassify : classifyLoopResult outcome = .ok classified) (hwell : classified.WellFormed)
    (hmetrics : ∀ final ∈ outcome.final, ∀ key ∈ final.metrics.toAList, ¬ FrameworkKey key) :
    ∃ result, runner.conclude telemetry outcome closing = .ok result := by
  have hepisode : ∀ key ∈ episodeMetrics outcome classified, key ∉ telemetry.metrics := by
    intro key hkey htelemetry
    obtain ⟨-, hsteps, hreward⟩ := RolloutTelemetry.telemetryKey htelemetry
    exact (mem_episodeMetrics hkey).elim hsteps hreward
  have hfinal : ∀ key ∈ episodeMetrics outcome classified ∪ telemetry.metrics,
      key ∉ (match outcome.final with
        | none => ∅
        | some final => final.metrics.toAList : RolloutMetrics) := by
    intro key hkey hmem
    cases houtcome : outcome.final with
    | none =>
      rw [houtcome] at hmem
      exact AList.notMem_empty key hmem
    | some final =>
      rw [houtcome] at hmem
      refine hmetrics final houtcome key hmem ?_
      rcases AList.mem_union.mp hkey with hkey | hkey
      · refine Or.inl ?_
        rcases mem_episodeMetrics hkey with rfl | rfl <;> simp
      · exact (RolloutTelemetry.telemetryKey hkey).1
  have hclosed := hwell.closing closing
  rw [conclude, hclassify, ok_bind]
  dsimp only
  rw [mergeMetrics_ok hepisode, ok_bind, mergeMetrics_ok hfinal, ok_bind, RolloutResult.create,
    dif_pos hclosed.1, dif_pos hclosed.2]
  exact ⟨_, rfl⟩

end RolloutRunner

end HarnessTraining
