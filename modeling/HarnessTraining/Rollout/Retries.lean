import HarnessTraining.Replay.StepCache
import HarnessTraining.Rollout.Grade

/-!
# Infra retries

`_run_rollout_with_infra_retries` of `src/rollout/sampler.py`: an attempt that drifts is superseded by
a live one, and an attempt that a slow provider let time out is superseded once.

* `raises_run` — a live attempt does not drift, unless the policy raises a drift of its own;
* `retries_honest` — the retries are bounded, and the result says what was superseded.
-/

set_option autoImplicit false

namespace HarnessTraining

open StateExcept

/-! ## Retries -/

/-- Why an attempt was superseded, with what is kept of it. -/
inductive InfraRetry where
  | executionDrift (actionIndex : ℕ) (artifactPath archivedTracePath : String)
  | slowLlmTimeout (liveLlmCalls sumLiveLlmLatencySec medianLiveLlmLatencySec
      p25LiveOutputTokensPerSec : ℚ) (archivedTracePath : String)
  deriving DecidableEq

def InfraRetry.isDrift : InfraRetry → Bool
  | executionDrift _ _ _ => true
  | slowLlmTimeout _ _ _ _ _ => false

/-- The result of a task, with the attempts that it supersedes. -/
structure MeasuredRollout extends RolloutResult where
  infraRetries : List InfraRetry := []

/-- The file of a trace: its directory, the stem of its name, and its suffix. -/
structure TracePath where
  parent : String
  stem : String
  suffix : String

/-- `_archive_trace`: the name a trace is kept under. -/
def TracePath.archived (path : TracePath) (kind : String) : String :=
  path.parent ++ "/" ++ path.stem ++ "." ++ kind ++ path.suffix

/-- `metrics[key]`. -/
def metricAt (metrics : RolloutMetrics) (key : String) : Except LoopError ℚ :=
  match metrics.lookup key with
  | none => throw (.foreign ("KeyError: '" ++ key ++ "'"))
  | some value => return value

/-- `_slow_llm_timeout_retry`, but for the path of the trace. -/
def slowLlmTimeoutRetry (result : RolloutResult) (agentTimeoutSec : ℚ) :
    Except LoopError (Option (String → InfraRetry)) :=
  let metrics := result.metrics
  if result.failureMode ≠ .hitTimeout ∨ (metrics.lookup liveLlmCallsKey).getD 0 < 3 ∨
      p25LiveOutputTokensPerSecKey ∉ metrics then
    return none
  else do
    let sum ← metricAt metrics sumLiveLlmLatencySecKey
    if ¬3 / 4 * agentTimeoutSec ≤ sum then return none
    let median ← metricAt metrics medianLiveLlmLatencySecKey
    if ¬20 ≤ median then return none
    let p25 ← metricAt metrics p25LiveOutputTokensPerSecKey
    if ¬p25 < 10 then return none
    let calls ← metricAt metrics liveLlmCallsKey
    return some (.slowLlmTimeout calls sum median p25)

/-- The record, relabelled to `unscorable_infra`. -/
def RolloutResult.unscorable (result : RolloutResult) : RolloutResult :=
  { result with
    failureMode := .unscorableInfra
    failureOrigin := none
    origin_iff := by decide
    error_unsolved := fun _ ↦ by decide }

/-- The last record, with what it supersedes. -/
def RolloutResult.superseding (result : RolloutResult) (drifted : Bool)
    (infraRetries : List InfraRetry) : MeasuredRollout :=
  if infraRetries = [] then { result with infraRetries := [] }
  else if drifted ∧ result.failureMode = .crash ∧ result.failureOrigin = some .env then
    { result.unscorable with infraRetries := infraRetries }
  else { result with infraRetries := infraRetries }

/-! ## The loop -/

/-- An attempt that was made: whether it was live-only, and what it came to. -/
structure RolloutAttempt where
  forceLive : Bool
  outcome : Except LoopError RolloutResult

/-- The attempt raised `ExecutionDriftError`. -/
def RolloutAttempt.drifted (attempt : RolloutAttempt) : Bool :=
  match attempt.outcome with
  | .error (.executionDrift _ _) => true
  | _ => false

/-- The variables of the loop, with the attempts that were made. -/
structure RetryState where
  driftRetried : Bool := false
  slowLlmRetried : Bool := false
  infraRetries : List InfraRetry := []
  attempts : List RolloutAttempt := []

/-- What the loop comes to. -/
structure RetryRun where
  attempts : List RolloutAttempt
  result : Except LoopError MeasuredRollout

section Loop

variable (attempt : ℕ → Bool → Except LoopError RolloutResult) (archive : ℕ → Except String Unit)
  (deterministic : Bool) (agentTimeoutSec : ℚ) (rolloutDir : String) (tracePath : TracePath)

/-- The loop of `_run_rollout_with_infra_retries`; `attempt` makes the attempts, `archive` puts the
files of a superseded one aside.  Nothing bounds the loop but its fuel. -/
def retryLoop : ℕ → RetryState → Option RetryRun
  | 0, _ => none
  | fuel + 1, state =>
    let n := state.attempts.length
    let outcome := attempt n state.driftRetried
    let attempts := state.attempts ++ [⟨state.driftRetried, outcome⟩]
    match outcome with
    | .error (.executionDrift actionIndex _) =>
      match archive n with
      | .error text => some ⟨attempts, .error (.foreign text)⟩
      | .ok () => retryLoop fuel { state with
          driftRetried := true
          infraRetries := state.infraRetries ++ [.executionDrift actionIndex
            (rolloutDir ++ "/infra/execution_drift.json") (tracePath.archived "execution-drift")]
          attempts := attempts }
    | .error error => some ⟨attempts, .error error⟩
    | .ok result =>
      match if deterministic then slowLlmTimeoutRetry result agentTimeoutSec else .ok none with
      | .error error => some ⟨attempts, .error error⟩
      | .ok none =>
        some ⟨attempts, .ok (result.superseding state.driftRetried state.infraRetries)⟩
      | .ok (some retry) =>
        if state.slowLlmRetried then
          some ⟨attempts, .ok (result.superseding state.driftRetried state.infraRetries)⟩
        else match archive n with
          | .error text => some ⟨attempts, .error (.foreign text)⟩
          | .ok () => retryLoop fuel { state with
              slowLlmRetried := true
              infraRetries := state.infraRetries ++
                [retry (tracePath.archived "slow-llm-timeout")]
              attempts := attempts }

end Loop

/-! ## Attempts -/

/-- What the attempts of a task run on: for every attempt an environment that may not be built, a
world, and the scope of its replay cache, if it has one. -/
structure AttemptSource (A : Type) where
  makeEnv : ℕ → Except String Unit
  world : ℕ → World A
  scope : ℕ → Except String (Option ReplayScope)
  taskId : TaskId
  maxSteps : ℕ
  stallTimeoutSec : ℚ
  telemetry : List (Event A) → RolloutTelemetry

namespace AttemptSource

variable {A : Type} (source : AttemptSource A) (u : Unicode) (hexdigest : Hexdigest)

def runner {σ : Type} (executor : StepExecutor A σ) : RolloutRunner A σ where
  taskId := source.taskId
  executor := executor
  maxSteps := source.maxSteps
  stallTimeoutSec := source.stallTimeoutSec
  telemetry := source.telemetry

/-- `run_attempt`, with the executor that `step_executor` chooses. -/
def runAttempt (n : ℕ) (forceLive : Bool) : Except LoopError RolloutResult := do
  (source.makeEnv n).mapError .foreign
  let scope ← if forceLive then .ok none else (source.scope n).mapError .foreign
  match scope with
  | none =>
    (exec ((source.runner (liveStepExecutor (source.world n))).run u (source.world n))
      { executor := () }).1
  | some scope =>
    (exec ((source.runner (ReplayCache.executor u hexdigest scope (source.world n))).run u
      (source.world n)) { executor := ReplayCache.new hexdigest scope }).1

end AttemptSource

/-! ## A live attempt does not drift -/

/-- Not an `ExecutionDriftError`. -/
def LoopError.NoDrift (error : LoopError) : Prop :=
  ∀ index diagnostic, error ≠ .executionDrift index diagnostic

/-- No exception of the policy hands on an `ExecutionDriftError`. -/
structure Unforged {A : Type} (world : World A) : Prop where
  build : ∀ trace error, world.build trace = .error error → (policyBoundary error).NoDrift
  policyReset : ∀ trace output error,
    world.policyReset trace output = .error error → (policyBoundary error).NoDrift
  act : ∀ trace error, world.act trace = .raised error → (policyBoundary error).NoDrift
  name : ∀ trace action error,
    world.name trace action = .error error → (policyBoundary error).NoDrift
  render : ∀ trace action error,
    world.render trace action = .error error → (policyBoundary error).NoDrift
  observe : ∀ trace action transition error,
    world.observe trace action transition = .error error → (policyBoundary error).NoDrift

/-- An executor that does not drift. -/
structure Driftless {A σ : Type} (executor : StepExecutor A σ) : Prop where
  provision : Raises LoopError.NoDrift executor.provision
  stepRun : ∀ action, Raises LoopError.NoDrift (executor.stepRun action)
  prepareSubmit : Raises LoopError.NoDrift executor.prepareSubmit
  stepVerify : Raises LoopError.NoDrift executor.stepVerify

section Raises

variable {A σ α : Type} {u : Unicode} {world : World A} {executor : StepExecutor A σ}

theorem raises_perform (event : α → Event A) (ask : List (Event A) → α) (P : LoopError → Prop) :
    Raises P (perform event ask : LoopM A σ α) :=
  fun _ ↦ trivial

theorem raises_orRaise {raise : EnvError → LoopError} (h : ∀ error, (raise error).NoDrift)
    (answer : Answer α) : Raises LoopError.NoDrift (answer.orRaise raise : LoopM A σ α) := by
  intro s
  rw [Answer.wp_orRaise]
  exact ⟨fun _ _ ↦ trivial, (fun _ _ _ h ↦ nomatch h), fun error _ ↦ h error⟩

theorem noDrift_raw (error : EnvError) : error.raw.NoDrift := by
  intro index diagnostic h
  cases error <;> cases h

theorem noDrift_crossing (error : EnvError) : error.crossing.NoDrift := by
  intro index diagnostic h
  cases error <;> cases h

theorem raises_executeEnvAction (action : EnvAction) :
    Raises LoopError.NoDrift (executeEnvAction world action : LoopM A σ StepResult) := by
  cases action with
  | run action =>
    exact (raises_perform _ _ _).bind fun answer ↦
      (raises_orRaise noDrift_crossing answer).bind fun _ ↦ .pure _
  | verify =>
    exact (raises_perform _ _ _).bind fun answer ↦
      (raises_orRaise noDrift_crossing answer).bind fun _ ↦ .pure _

/-- **The live executor does not drift.** -/
theorem driftless_live (world : World A) : Driftless (liveStepExecutor world) where
  provision := (raises_perform _ _ _).bind fun answer ↦ raises_orRaise noDrift_raw answer
  stepRun action := by
    change Raises LoopError.NoDrift (executeEnvAction world (.run action))
    exact raises_executeEnvAction _
  prepareSubmit := .pure _
  stepVerify := by
    change Raises LoopError.NoDrift (executeEnvAction world .verify)
    exact raises_executeEnvAction _

theorem raises_askPolicy {event : Except PolicyError α → Event A}
    {ask : List (Event A) → Except PolicyError α}
    (h : ∀ trace error, ask trace = .error error → (policyBoundary error).NoDrift) :
    Raises LoopError.NoDrift (askPolicy event ask : LoopM A σ α) := by
  intro s
  rw [wp_askPolicy]
  exact ⟨fun _ _ ↦ trivial, fun error herror ↦ h _ error herror⟩

theorem raises_tell (row : TelemetryRow) :
    Raises LoopError.NoDrift (tell world row : LoopM A σ Unit) := by
  intro s
  rw [wp_tell]
  exact ⟨fun _ ↦ trivial, fun _ _ _ _ h ↦ nomatch h⟩

theorem raises_act (hworld : Unforged world) (stallTimeoutSec : ℚ) :
    Raises LoopError.NoDrift (act world stallTimeoutSec : LoopM A σ (Except String (List A))) := by
  intro s
  rw [act, wp_bind, wp_perform]
  cases hact : world.act s.trace with
  | actions actions => trivial
  | noValidAction => trivial
  | repeatedLengthCutoff text => trivial
  | deadline agent => cases agent <;> rintro _ _ ⟨⟩
  | raised error => exact hworld.act _ error hact

theorem raises_bounded {step : LoopM A σ StepResult} (h : Raises LoopError.NoDrift step) :
    Raises LoopError.NoDrift (bounded step) := by
  refine (h.bind fun _ ↦ .pure _).tryCatch fun error herror ↦ ?_
  cases error with
  | cancelled => exact .pure _
  | timeoutError text => exact .throw (by rintro _ _ ⟨⟩)
  | _ => exact .throw herror

theorem raises_prepareSubmit (hexecutor : Driftless executor) :
    Raises LoopError.NoDrift (prepareSubmit executor) := by
  refine hexecutor.prepareSubmit.tryCatch fun error herror ↦ ?_
  cases error with
  | cancelled => exact .throw (by rintro _ _ ⟨⟩)
  | timeoutError text => exact .throw (by rintro _ _ ⟨⟩)
  | _ => exact .throw herror

theorem raises_recordStep (envAction : EnvAction) (result : StepResult) (timedOut : Bool) :
    Raises LoopError.NoDrift (recordStep u envAction result timedOut : LoopM A σ StepResult) :=
  (Raises.modify _).bind fun _ ↦ .pure _

theorem raises_executeAction (hworld : Unforged world) (hexecutor : Driftless executor) (action : A) :
    Raises LoopError.NoDrift (executeAction u world executor action) := by
  refine (raises_askPolicy fun trace ↦ hworld.name trace action).bind fun name ↦ .ite ?_ ?_
  · refine (raises_prepareSubmit hexecutor).bind fun served ↦ ?_
    have hstep : Raises LoopError.NoDrift (served.elim executor.stepVerify pure) := by
      cases served with
      | none => exact hexecutor.stepVerify
      | some result => exact .pure _
    refine (raises_bounded hstep).bind fun bounded ↦ ?_
    exact (raises_recordStep _ _ _).bind fun _ ↦ .pure _
  · refine (raises_askPolicy fun trace ↦ hworld.render trace action).bind fun rendered ↦ ?_
    cases rendered with
    | other typeName => exact .throw (by rintro _ _ ⟨⟩)
    | run envAction =>
      refine (raises_bounded (hexecutor.stepRun envAction)).bind fun bounded ↦ ?_
      exact (raises_recordStep _ _ _).bind fun _ ↦ .pure _

theorem raises_executeBatch (hworld : Unforged world) (hexecutor : Driftless executor) :
    ∀ (actions : List A) (room : ℕ),
      Raises LoopError.NoDrift (executeBatch u world executor actions room)
  | [], room => by
    rw [executeBatch]
    exact .pure _
  | action :: actions, 0 => by
    rw [executeBatch]
    exact .pure _
  | action :: actions, room + 1 => by
    rw [executeBatch]
    refine (raises_executeAction hworld hexecutor action).bind fun executed ↦ .ite (.pure _) ?_
    exact (raises_executeBatch hworld hexecutor actions room).bind fun _ ↦ .pure _

theorem raises_report (hworld : Unforged world) (previousStepIndex : ℕ) :
    ∀ (callIndex : ℕ) (transitions : List (A × StepResult)),
      Raises LoopError.NoDrift
        (report world previousStepIndex callIndex transitions : LoopM A σ Unit)
  | _, [] => .pure _
  | callIndex, (action, transition) :: transitions => by
    rw [report]
    refine (raises_tell _).bind fun _ ↦ ?_
    refine (raises_askPolicy fun trace ↦ hworld.observe trace action transition).bind fun _ ↦ ?_
    exact raises_report hworld previousStepIndex (callIndex + 1) transitions

theorem raises_turns (hworld : Unforged world) (hexecutor : Driftless executor) (maxSteps : ℕ)
    (stallTimeoutSec : ℚ) : ∀ (fuel stepIndex : ℕ) (final : Option StepResult),
      Raises LoopError.NoDrift (turns u world executor maxSteps stallTimeoutSec fuel stepIndex final)
  | 0, _, _ => .pure _
  | fuel + 1, stepIndex, final => by
    rw [turns]
    refine .ite (.pure _) ((raises_act hworld stallTimeoutSec).bind fun acted ↦ ?_)
    cases acted with
    | error text => exact .pure _
    | ok actions =>
      refine (raises_executeBatch hworld hexecutor actions _).bind fun batch ↦ ?_
      dsimp only
      have hrest : Raises LoopError.NoDrift (do
          report world stepIndex 0 batch.transitions
          let final := (batch.transitions.getLast?.map Prod.snd).or final
          if batch.terminal then
            finish batch.submitRequested final (stepIndex + max 1 batch.transitions.length)
          else
            turns u world executor maxSteps stallTimeoutSec fuel
              (stepIndex + max 1 batch.transitions.length) final : LoopM A σ LoopOutcome) := by
        refine (raises_report hworld stepIndex 0 _).bind fun _ ↦ .ite ?_ ?_
        · cases (batch.transitions.getLast?.map Prod.snd).or final with
          | none => exact .throw (by rintro _ _ ⟨⟩)
          | some result => exact .pure _
        · exact raises_turns hworld hexecutor maxSteps stallTimeoutSec fuel _ _
      split
      · exact (raises_tell _).bind fun _ ↦ hrest
      · exact hrest

theorem raises_setup (hexecutor : Driftless executor) :
    Raises LoopError.NoDrift (setup world executor) := by
  refine ((raises_perform _ _ _).bind fun answer ↦ (raises_orRaise noDrift_raw answer).bind
    fun _ ↦ hexecutor.provision.bind fun _ ↦ .pure _).tryCatch fun error herror ↦ .throw ?_
  intro index diagnostic h
  cases error <;> first | exact herror _ _ rfl | cases h

theorem raises_runTaskLoop (hworld : Unforged world) (hexecutor : Driftless executor)
    (maxSteps : ℕ) (stallTimeoutSec : ℚ) :
    Raises LoopError.NoDrift (runTaskLoop u world executor maxSteps stallTimeoutSec) := by
  have hepisode : Raises LoopError.NoDrift (episode u world executor maxSteps stallTimeoutSec) :=
    (raises_setup hexecutor).bind fun initial ↦
      (raises_askPolicy fun trace ↦ hworld.policyReset trace initial).bind fun _ ↦
        raises_turns hworld hexecutor maxSteps stallTimeoutSec _ _ _
  refine hepisode.tryCatch fun error herror ↦ ?_
  cases error <;> first | exact .pure _ | exact .throw herror

theorem raises_cleanUp : Raises LoopError.NoDrift (RolloutRunner.cleanUp world :
    LoopM A σ (Option String)) := by
  refine (raises_perform _ _ _).bind fun answer ↦ Raises.get.bind fun rollout ↦
    (raises_perform _ _ _).bind fun written ↦ ?_
  rcases written with text | ⟨⟩
  · exact .throw (by rintro _ _ ⟨⟩)
  · exact .pure _

theorem classifyLoopResult_error {outcome : LoopOutcome} {error : LoopError}
    (h : classifyLoopResult outcome = .error error) : error.NoDrift := by
  unfold classifyLoopResult at h
  intro index diagnostic hdrift
  subst hdrift
  split at h
  · split at h
    · cases h
    · split at h
      · cases h
      · split at h <;> cases h
  all_goals cases h

theorem mergeMetrics_error {merged source : RolloutMetrics} {error : LoopError}
    (h : mergeMetrics merged source = .error error) : error.NoDrift := by
  intro index diagnostic hdrift
  subst hdrift
  rw [mergeMetrics] at h
  split at h <;> cases h

theorem create_error {taskId : TaskId} {failureMode : FailureMode}
    {failureOrigin : Option FailureOrigin} {text : Option String} {metrics : RolloutMetrics}
    {error : LoopError}
    (h : RolloutResult.create taskId failureMode failureOrigin text metrics = .error error) :
    error.NoDrift := by
  intro index diagnostic hdrift
  subst hdrift
  rw [RolloutResult.create] at h
  split at h
  · split at h <;> cases h
  · cases h

theorem conclude_error {runner : RolloutRunner A σ} {telemetry : RolloutTelemetry}
    {outcome : LoopOutcome} {closing : Option String} {error : LoopError}
    (h : runner.conclude telemetry outcome closing = .error error) : error.NoDrift := by
  rcases bind_eq_error h with hclassify | ⟨classified, -, h⟩
  · exact classifyLoopResult_error hclassify
  rcases bind_eq_error h with htelemetry | ⟨metrics, -, h⟩
  · exact mergeMetrics_error htelemetry
  rcases bind_eq_error h with hfinal | ⟨metrics, -, h⟩
  · exact mergeMetrics_error hfinal
  · exact create_error h

/-- **A rollout drifts only if its executor does**, or its policy raises a drift of its own. -/
theorem raises_run {runner : RolloutRunner A σ} (hworld : Unforged world)
    (hexecutor : Driftless runner.executor) :
    Raises LoopError.NoDrift (runner.run u world) := by
  have hloop : Raises LoopError.NoDrift (runner.buildAndLoop u world) := by
    intro s
    rw [RolloutRunner.buildAndLoop, wp_bind, wp_perform]
    cases hbuild : world.build s.trace with
    | ok typeName =>
      cases typeName with
      | none => exact raises_runTaskLoop hworld hexecutor _ _ _
      | some typeName => trivial
    | error error =>
      have hboundary := hworld.build _ error hbuild
      dsimp only
      split
      · trivial
      · trivial
      · exact hboundary
  refine (hloop.tryCatch fun error herror ↦ raises_cleanUp.bind fun _ ↦ .throw herror).bind
    fun outcome ↦ raises_cleanUp.bind fun closing ↦ Raises.get.bind fun rollout ↦ ?_
  cases hconclude : runner.conclude (runner.telemetry rollout.trace) outcome closing with
  | ok result => exact .pure _
  | error error => exact .throw (conclude_error hconclude)

end Raises

/-- **A live-only attempt does not drift.** -/
theorem AttemptSource.runAttempt_noDrift {A : Type} {source : AttemptSource A} {u : Unicode}
    {hexdigest : Hexdigest} {n : ℕ} (hworld : Unforged (source.world n)) {error : LoopError}
    (h : source.runAttempt u hexdigest n true = .error error) : error.NoDrift := by
  rw [runAttempt] at h
  cases henv : source.makeEnv n with
  | error text =>
    rw [henv] at h
    cases h
    exact fun _ _ h ↦ nomatch h
  | ok =>
    rw [henv] at h
    exact (raises_run hworld (driftless_live (source.world n))).run h

/-! ## The retries -/

/-- A record says what became of a superseded attempt. -/
def Describes (retry : InfraRetry) (attempt : RolloutAttempt) : Prop :=
  match retry with
  | .executionDrift actionIndex _ _ =>
    ∃ diagnostic, attempt.outcome = .error (.executionDrift actionIndex diagnostic)
  | .slowLlmTimeout calls sum median p25 _ =>
    ∃ result, attempt.outcome = .ok result ∧ result.failureMode = .hitTimeout ∧
      result.metrics.lookup liveLlmCallsKey = some calls ∧
      result.metrics.lookup sumLiveLlmLatencySecKey = some sum ∧
      result.metrics.lookup medianLiveLlmLatencySecKey = some median ∧
      result.metrics.lookup p25LiveOutputTokensPerSecKey = some p25

/-- The attempts were made one after the other, those after a drift live-only. -/
def Made (attempt : ℕ → Bool → Except LoopError RolloutResult) (attempts : List RolloutAttempt) : Prop :=
  ∀ i made, attempts[i]? = some made →
    made.outcome = attempt i made.forceLive ∧
      made.forceLive = (attempts.take i).any RolloutAttempt.drifted

/-- **An honest run**: at most three attempts, at most one retry of each kind, and a result that is the
last attempt's, says what it supersedes, and is relabelled exactly if a crash of the environment
follows a drift. -/
structure HonestRun (attempt : ℕ → Bool → Except LoopError RolloutResult) (deterministic : Bool)
    (run : RetryRun) : Prop where
  bounded : run.attempts.length ≤ 3
  made : Made attempt run.attempts
  superseded : ∃ earlier last infraRetries, run.attempts = earlier ++ [last] ∧
    List.Forall₂ Describes infraRetries earlier ∧
    infraRetries.countP (·.isDrift) ≤ 1 ∧ infraRetries.countP (!·.isDrift) ≤ 1 ∧
    (deterministic = false → infraRetries.countP (!·.isDrift) = 0) ∧
    ∀ rollout, run.result = .ok rollout → ∃ result, last.outcome = .ok result ∧
      rollout.infraRetries = infraRetries ∧
      rollout.toRolloutResult =
        if earlier.any RolloutAttempt.drifted = true ∧ result.failureMode = .crash ∧
          result.failureOrigin = some .env then result.unscorable else result

section Loop

variable {attempt : ℕ → Bool → Except LoopError RolloutResult} {archive : ℕ → Except String Unit}
  {deterministic : Bool} {agentTimeoutSec : ℚ} {rolloutDir : String} {tracePath : TracePath}

/-- The invariant at the head of the loop. -/
structure RetryState.Honest (attempt : ℕ → Bool → Except LoopError RolloutResult)
    (deterministic : Bool) (state : RetryState) : Prop where
  made : Made attempt state.attempts
  described : List.Forall₂ Describes state.infraRetries state.attempts
  drifted : state.driftRetried = state.attempts.any RolloutAttempt.drifted
  drifts : state.infraRetries.countP (·.isDrift) = state.driftRetried.toNat
  slow : state.infraRetries.countP (!·.isDrift) = state.slowLlmRetried.toNat
  deterministic : deterministic = false → state.slowLlmRetried = false

theorem RetryState.Honest.length {state : RetryState} (h : state.Honest attempt deterministic) :
    state.attempts.length = state.driftRetried.toNat + state.slowLlmRetried.toNat := by
  rw [← h.described.length_eq, ← h.drifts, ← h.slow]
  have hcount := List.length_eq_countP_add_countP (·.isDrift) (l := state.infraRetries)
  simpa using hcount

theorem Made.snoc {attempts : List RolloutAttempt} (h : Made attempt attempts) {forceLive : Bool}
    (hlive : forceLive = attempts.any RolloutAttempt.drifted) :
    Made attempt (attempts ++ [⟨forceLive, attempt attempts.length forceLive⟩]) := by
  intro i made hmade
  rcases Nat.lt_trichotomy i attempts.length with hlt | rfl | hgt
  · rw [List.getElem?_append_left hlt] at hmade
    rw [List.take_append_of_le_length (Nat.le_of_lt hlt)]
    exact h i made hmade
  · rw [List.getElem?_concat_length] at hmade
    cases hmade
    rw [List.take_left]
    exact ⟨rfl, hlive⟩
  · rw [List.getElem?_eq_none (by simp; omega)] at hmade
    cases hmade

theorem describes_slow {result : RolloutResult} {retry : String → InfraRetry} {forceLive : Bool}
    (h : slowLlmTimeoutRetry result agentTimeoutSec = .ok (some retry)) (path : String) :
    Describes (retry path) ⟨forceLive, .ok result⟩ ∧ (retry path).isDrift = false := by
  have hmetric {key : String} {value : ℚ} (h : metricAt result.metrics key = .ok value) :
      result.metrics.lookup key = some value := by
    rw [metricAt] at h
    split at h
    · cases h
    · next hlookup =>
      cases h
      exact hlookup
  rw [slowLlmTimeoutRetry] at h
  split at h
  · cases h
  · next hcandidate =>
    obtain ⟨sum, hsum, h⟩ := bind_eq_ok h
    split at h
    · cases h
    obtain ⟨median, hmedian, h⟩ := bind_eq_ok h
    split at h
    · cases h
    obtain ⟨p25, hp25, h⟩ := bind_eq_ok h
    split at h
    · cases h
    obtain ⟨calls, hcalls, h⟩ := bind_eq_ok h
    cases h
    simp only [not_or, not_not] at hcandidate
    exact ⟨⟨result, rfl, hcandidate.1, hmetric hcalls, hmetric hsum, hmetric hmedian,
      hmetric hp25⟩, rfl⟩

/-- A run that ends at an attempt which is not superseded. -/
theorem RetryState.Honest.ends {state : RetryState} (h : state.Honest attempt deterministic)
    {result : Except LoopError MeasuredRollout}
    (hresult : ∀ rollout, result = .ok rollout → ∃ last,
      attempt state.attempts.length state.driftRetried = .ok last ∧
        rollout = last.superseding state.driftRetried state.infraRetries) :
    HonestRun attempt deterministic ⟨state.attempts ++
      [⟨state.driftRetried, attempt state.attempts.length state.driftRetried⟩], result⟩ where
  bounded := by
    rw [List.length_append, List.length_singleton, h.length]
    have hdrift := Bool.toNat_le state.driftRetried
    have hslow := Bool.toNat_le state.slowLlmRetried
    omega
  made := h.made.snoc h.drifted
  superseded := by
    refine ⟨state.attempts, _, state.infraRetries, rfl, h.described, ?_, ?_, ?_, ?_⟩
    · rw [h.drifts]
      exact Bool.toNat_le _
    · rw [h.slow]
      exact Bool.toNat_le _
    · intro hdeterministic
      rw [h.slow, h.deterministic hdeterministic]
      rfl
    · intro rollout hrollout
      obtain ⟨last, hlast, rfl⟩ := hresult rollout hrollout
      refine ⟨last, hlast, ?_, ?_⟩
      · rw [RolloutResult.superseding]
        split
        · next hempty => exact hempty.symm
        · split <;> rfl
      · rw [RolloutResult.superseding, ← h.drifted]
        split
        · next hempty =>
          have hdrift : state.driftRetried = false := by
            have hdrifts := h.drifts
            rw [hempty] at hdrifts
            cases hflag : state.driftRetried with
            | false => rfl
            | true =>
              rw [hflag] at hdrifts
              cases hdrifts
          rw [if_neg (by simp [hdrift])]
        · split <;> rfl

theorem forall₂_snoc {retries : List InfraRetry} {attempts : List RolloutAttempt} {retry : InfraRetry}
    {made : RolloutAttempt} (h : List.Forall₂ Describes retries attempts) (hlast : Describes retry made) :
    List.Forall₂ Describes (retries ++ [retry]) (attempts ++ [made]) :=
  List.rel_append h (.cons hlast .nil)

/-- The state after an attempt that drifted. -/
theorem RetryState.Honest.afterDrift {state : RetryState} (h : state.Honest attempt deterministic)
    (hfirst : state.driftRetried = false) {index : ℕ} {diagnostic : Json}
    (houtcome : attempt state.attempts.length state.driftRetried =
      .error (.executionDrift index diagnostic)) (artifactPath archivedTracePath : String) :
    RetryState.Honest attempt deterministic { state with
      driftRetried := true
      infraRetries := state.infraRetries ++ [.executionDrift index artifactPath archivedTracePath]
      attempts := state.attempts ++
        [⟨state.driftRetried, attempt state.attempts.length state.driftRetried⟩] } where
  made := h.made.snoc h.drifted
  described := forall₂_snoc h.described ⟨diagnostic, houtcome⟩
  drifted := by simp [RolloutAttempt.drifted, houtcome]
  drifts := by
    rw [List.countP_append, h.drifts, hfirst]
    rfl
  slow := by
    rw [List.countP_append, h.slow]
    rfl
  deterministic := h.deterministic

/-- The state after an attempt that a slow provider let time out. -/
theorem RetryState.Honest.afterSlow {state : RetryState} (h : state.Honest attempt deterministic)
    (hfirst : state.slowLlmRetried = false) (hdeterministic : deterministic = true)
    {result : RolloutResult} {retry : InfraRetry}
    (houtcome : attempt state.attempts.length state.driftRetried = .ok result)
    (hretry : Describes retry ⟨state.driftRetried, .ok result⟩ ∧ retry.isDrift = false) :
    RetryState.Honest attempt deterministic { state with
      slowLlmRetried := true
      infraRetries := state.infraRetries ++ [retry]
      attempts := state.attempts ++
        [⟨state.driftRetried, attempt state.attempts.length state.driftRetried⟩] } where
  made := h.made.snoc h.drifted
  described := forall₂_snoc h.described (houtcome ▸ hretry.1)
  drifted := by
    have hmade : RolloutAttempt.drifted
        ⟨state.driftRetried, attempt state.attempts.length state.driftRetried⟩ = false := by
      rw [RolloutAttempt.drifted, houtcome]
    rw [List.any_append, ← h.drifted, List.any_cons, List.any_nil, hmade, Bool.or_false,
      Bool.or_false]
  drifts := by
    rw [List.countP_append, h.drifts, List.countP_singleton, hretry.2]
    rfl
  slow := by
    rw [List.countP_append, h.slow, hfirst, List.countP_singleton, hretry.2]
    rfl
  deterministic hfalse := by
    rw [hdeterministic] at hfalse
    cases hfalse

/-- **One turn**: the loop ends honestly, or goes on after one more attempt. -/
theorem retryLoop_step (hlive : ∀ n, 0 < n → ∀ error, attempt n true = .error error → error.NoDrift)
    {state : RetryState} (h : state.Honest attempt deterministic) :
    (∃ run, HonestRun attempt deterministic run ∧ ∀ fuel,
      retryLoop attempt archive deterministic agentTimeoutSec rolloutDir tracePath (fuel + 1) state =
        some run) ∨
    ∃ state' : RetryState, state'.Honest attempt deterministic ∧
      state'.attempts.length = state.attempts.length + 1 ∧ ∀ fuel,
        retryLoop attempt archive deterministic agentTimeoutSec rolloutDir tracePath (fuel + 1)
            state =
          retryLoop attempt archive deterministic agentTimeoutSec rolloutDir tracePath fuel
            state' := by
  have hraised (error : LoopError) : HonestRun attempt deterministic ⟨state.attempts ++
      [⟨state.driftRetried, attempt state.attempts.length state.driftRetried⟩], .error error⟩ :=
    h.ends fun _ h ↦ nomatch h
  have hlength {made : RolloutAttempt} : (state.attempts ++ [made]).length = state.attempts.length + 1 := by
    rw [List.length_append, List.length_singleton]
  cases houtcome : attempt state.attempts.length state.driftRetried with
  | error error =>
    by_cases hdrift : error.NoDrift
    · refine Or.inl ⟨_, hraised error, fun fuel ↦ ?_⟩
      rw [retryLoop]
      simp only [houtcome]
      split
      · next hindex =>
        cases hindex
        exact absurd rfl (hdrift _ _)
      · next hother =>
        cases hother
        rfl
      · next hok => cases hok
    · obtain ⟨index, diagnostic, rfl⟩ : ∃ index diagnostic, error =
          .executionDrift index diagnostic := by
        simpa [LoopError.NoDrift] using hdrift
      -- a live-only attempt does not drift, so this is the first drift
      have hfirst : state.driftRetried = false := by
        cases hflag : state.driftRetried with
        | false => rfl
        | true =>
          have hpos : 0 < state.attempts.length := by
            have hsome := h.length
            rw [hflag] at hsome
            simp at hsome
            omega
          rw [hflag] at houtcome
          exact absurd rfl (hlive _ hpos _ houtcome index diagnostic)
      cases harchive : archive state.attempts.length with
      | error text =>
        refine Or.inl ⟨_, hraised (.foreign text), fun fuel ↦ ?_⟩
        simp only [retryLoop, houtcome, harchive]
      | ok =>
        refine Or.inr ⟨_, h.afterDrift hfirst houtcome
          (rolloutDir ++ "/infra/execution_drift.json") (tracePath.archived "execution-drift"),
          hlength, fun fuel ↦ ?_⟩
        simp only [retryLoop, houtcome, harchive]
  | ok result =>
    have hends : HonestRun attempt deterministic ⟨state.attempts ++
        [⟨state.driftRetried, attempt state.attempts.length state.driftRetried⟩],
        .ok (result.superseding state.driftRetried state.infraRetries)⟩ := by
      refine h.ends fun rollout hrollout ↦ ⟨result, houtcome, ?_⟩
      exact (Except.ok.inj hrollout).symm
    cases hslow : (if deterministic then slowLlmTimeoutRetry result agentTimeoutSec
        else .ok none : Except LoopError (Option (String → InfraRetry))) with
    | error error =>
      refine Or.inl ⟨_, hraised error, fun fuel ↦ ?_⟩
      simp only [retryLoop, houtcome, hslow]
    | ok retry =>
      cases retry with
      | none =>
        refine Or.inl ⟨_, hends, fun fuel ↦ ?_⟩
        simp only [retryLoop, houtcome, hslow]
      | some retry =>
        cases hflag : state.slowLlmRetried with
        | true =>
          refine Or.inl ⟨_, hends, fun fuel ↦ ?_⟩
          simp only [retryLoop, houtcome, hslow, hflag, if_true]
        | false =>
          cases harchive : archive state.attempts.length with
          | error text =>
            refine Or.inl ⟨_, hraised (.foreign text), fun fuel ↦ ?_⟩
            simp only [retryLoop, houtcome, hslow, hflag, harchive, Bool.false_eq_true, if_false]
          | ok =>
            have hdeterministic : deterministic = true := by
              cases deterministic with
              | false => cases hslow
              | true => rfl
            rw [hdeterministic, if_pos rfl] at hslow
            refine Or.inr ⟨_, h.afterSlow hflag hdeterministic houtcome 
              (describes_slow hslow (tracePath.archived "slow-llm-timeout")), hlength, fun fuel ↦ ?_⟩
            simp only [retryLoop, houtcome, hdeterministic, hslow, hflag, harchive,
              Bool.false_eq_true, if_false, if_true]

/-- **Three attempts are enough.** -/
theorem retryLoop_honest (hlive : ∀ n, 0 < n → ∀ error, attempt n true = .error error → error.NoDrift) :
    ∀ (room : ℕ) (state : RetryState), state.Honest attempt deterministic →
      3 ≤ room + state.attempts.length → ∃ run, HonestRun attempt deterministic run ∧
        ∀ fuel, room ≤ fuel →
          retryLoop attempt archive deterministic agentTimeoutSec rolloutDir tracePath fuel state =
            some run
  | 0, state, h, hroom => by
    have hlength := h.length
    have hdrift := Bool.toNat_le state.driftRetried
    have hslow := Bool.toNat_le state.slowLlmRetried
    omega
  | room + 1, state, h, hroom => by
    rcases retryLoop_step hlive h with ⟨run, hrun, hloop⟩ | ⟨state', h', hlength, hloop⟩
    · refine ⟨run, hrun, fun fuel hfuel ↦ ?_⟩
      obtain ⟨fuel, rfl⟩ := Nat.exists_eq_add_of_le' (Nat.one_le_of_lt hfuel)
      exact hloop fuel
    · obtain ⟨run, hrun, hrest⟩ := retryLoop_honest hlive room state' h' (by omega)
      refine ⟨run, hrun, fun fuel hfuel ↦ ?_⟩
      obtain ⟨fuel, rfl⟩ := Nat.exists_eq_add_of_le' (Nat.one_le_of_lt hfuel)
      rw [hloop fuel]
      exact hrest fuel (by omega)

end Loop

theorem conclude_taskId {A σ : Type} {runner : RolloutRunner A σ} {telemetry : RolloutTelemetry}
    {outcome : LoopOutcome} {closing : Option String} {result : RolloutResult}
    (h : runner.conclude telemetry outcome closing = .ok result) : result.taskId = runner.taskId := by
  obtain ⟨classified, -, h⟩ := bind_eq_ok h
  obtain ⟨metrics, -, h⟩ := bind_eq_ok h
  obtain ⟨metrics', -, h⟩ := bind_eq_ok h
  rw [RolloutResult.create] at h
  split at h
  · split at h
    · cases h
      rfl
    · cases h
  · cases h

theorem run_taskId {A σ : Type} {runner : RolloutRunner A σ} {u : Unicode} {world : World A}
    {s s' : Rollout A σ} {result : RolloutResult}
    (h : exec (runner.run u world) s = (.ok result, s')) : result.taskId = runner.taskId := by
  have hanything {α : Type} (m : LoopM A σ α) (s : Rollout A σ) :
      wp m (fun _ _ ↦ True) (fun _ _ ↦ True) s :=
    wp_iff.mpr ⟨fun _ _ _ ↦ trivial, fun _ _ _ ↦ trivial⟩
  have hrun : wp (runner.run u world) (fun result _ ↦ result.taskId = runner.taskId)
      (fun _ _ ↦ True) s := by
    rw [RolloutRunner.run, wp_bind]
    refine wp_mono (hanything _ s) (fun outcome s₁ _ ↦ ?_) fun _ _ h ↦ h
    rw [wp_bind]
    refine wp_mono (hanything _ s₁) (fun closing s₂ _ ↦ ?_) fun _ _ h ↦ h
    rw [wp_bind, wp_get]
    cases hconclude : runner.conclude (runner.telemetry s₂.trace) outcome closing with
    | ok result => exact conclude_taskId hconclude
    | error error => trivial
  exact (wp_iff.mp hrun).1 result s' h

theorem AttemptSource.runAttempt_taskId {A : Type} {source : AttemptSource A} {u : Unicode}
    {hexdigest : Hexdigest} {n : ℕ} {forceLive : Bool} {result : RolloutResult}
    (h : source.runAttempt u hexdigest n forceLive = .ok result) : result.taskId = source.taskId := by
  obtain ⟨-, -, h⟩ := bind_eq_ok h
  cases forceLive with
  | true => exact run_taskId (Prod.ext h rfl)
  | false =>
    obtain ⟨scope, -, h⟩ := bind_eq_ok h
    cases scope with
    | none => exact run_taskId (Prod.ext h rfl)
    | some scope => exact run_taskId (Prod.ext h rfl)

/-- **A rollout is filed under its task**, with its retries. -/
theorem HonestRun.taskId {A : Type} {source : AttemptSource A} {u : Unicode} {hexdigest : Hexdigest}
    {deterministic : Bool} {run : RetryRun} {rollout : MeasuredRollout}
    (h : HonestRun (source.runAttempt u hexdigest) deterministic run)
    (hresult : run.result = .ok rollout) : rollout.taskId = source.taskId := by
  obtain ⟨earlier, last, infraRetries, hattempts, -, -, -, -, hlast⟩ := h.superseded
  obtain ⟨result, hok, -, hrollout⟩ := hlast rollout hresult
  have hmade := h.made earlier.length last (by rw [hattempts, List.getElem?_concat_length])
  have htask : result.taskId = source.taskId :=
    AttemptSource.runAttempt_taskId (hmade.1.symm.trans hok)
  rw [hrollout]
  split
  · exact htask
  · exact htask

/-! ## A policy that raises a drift -/

/-- Attempts that all drift are made for ever. -/
theorem retryLoop_drifts {attempt : ℕ → Bool → Except LoopError RolloutResult}
    {archive : ℕ → Except String Unit} {deterministic : Bool} {agentTimeoutSec : ℚ}
    {rolloutDir : String} {tracePath : TracePath} {index : ℕ} {diagnostic : Json}
    (hattempt : ∀ n forceLive, attempt n forceLive = .error (.executionDrift index diagnostic))
    (harchive : ∀ n, archive n = .ok ()) :
    ∀ (fuel : ℕ) (state : RetryState),
      retryLoop attempt archive deterministic agentTimeoutSec rolloutDir tracePath fuel state = none
  | 0, _ => rfl
  | fuel + 1, state => by
    simp only [retryLoop, hattempt, harchive]
    exact retryLoop_drifts hattempt harchive fuel _

/-- A task without a replay cache, in one and the same world at every attempt. -/
def eagerSource (world : World Unit) : AttemptSource Unit where
  makeEnv _ := .ok ()
  world _ := world
  scope _ := .ok none
  taskId := "task"
  maxSteps := 1
  stallTimeoutSec := 1200
  telemetry _ := {}

/-- The policy raises a `FrameworkError` from an `ExecutionDriftError`. -/
def driftingWorld : World Unit :=
  { submitWorld (.ok ()) with act := fun _ ↦ .raised (.framework (.executionDrift 0 .null)) }

theorem eagerSource_drifts (u : Unicode) (hexdigest : Hexdigest) (n : ℕ) (forceLive : Bool) :
    (eagerSource driftingWorld).runAttempt u hexdigest n forceLive =
      .error (.executionDrift 0 .null) := by
  cases forceLive <;> rfl

theorem unforged_submitWorld (seen : Except PolicyError Unit)
    (hseen : ∀ error, seen = .error error → (policyBoundary error).NoDrift) :
    Unforged (submitWorld seen) where
  build := by rintro trace error ⟨⟩
  policyReset := by rintro trace output error ⟨⟩
  act := by rintro trace error ⟨⟩
  name := by rintro trace action error ⟨⟩
  render := by rintro trace action error ⟨⟩
  observe _ _ _ := hseen

end HarnessTraining
