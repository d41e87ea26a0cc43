import HarnessTraining.Rollout.Execution
import HarnessTraining.Rollout.Records

/-!
# The episode loop

`run_task_loop` of `src/rollout/episode.py`: the framework-owned loop that drives one policy through
one environment, and decides why the episode ended.

The deadlines are not computed here.  A deadline cancels the call that is being awaited, and the
`World` says which call that is.
-/

set_option autoImplicit false

namespace HarnessTraining

open StateExcept

def SUBMIT_ACTION_NAME : String := "submit"

/-! ## Boundaries -/

/-- `error_text`, of an exception or of the cause it carries. -/
def LoopError.text : LoopError → String
  | .cancelled => "CancelledError"
  | .executionDrift index _ =>
    s!"ExecutionDriftError: execution drift during catch-up: action {index} no longer reproduces " ++
      "its recorded observation; the replayed prefix is contaminated"
  | .envSetupTimeout => "_EnvSetupTimeoutError"
  | .taskTimeout => "_TaskTimeoutError"
  | .timeoutError text | .frameworkEnv text | .unscorableInfra text | .stepExecution text
  | .policyBoundary text | .envBoundary text | .stallTimeout text | .foreign text => text

/-- `_policy_boundary`: convert only editable-policy failures to a typed rollout failure. -/
def policyBoundary : PolicyError → LoopError
  | .completionInfra text => .envBoundary text
  | .framework cause => cause
  | .taskTimeout => .taskTimeout
  | .stallTimeout text => .stallTimeout text
  | .other text => .policyBoundary text

/-- `_env_boundary` around the setup: only external environment failures become a typed rollout
failure.  The cancellation is the setup timeout. -/
def setupBoundary : LoopError → LoopError
  | .cancelled => .envSetupTimeout
  | .executionDrift index diagnostic => .executionDrift index diagnostic
  | .frameworkEnv text => .frameworkEnv text
  | .unscorableInfra text => .unscorableInfra text
  | .envSetupTimeout => .envSetupTimeout
  | error => .envBoundary error.text

/-! ## Outcomes -/

inductive LoopEnd where
  | submitted | budget | stepCap | gaveUp | setupTimeout | taskTimeout | stallTimeout
  | unscorableInfra | crash
  deriving DecidableEq, Repr

/-- Why the episode ended.  Loop endings carry a step count; failure endings leave it out. -/
structure LoopOutcome where
  ending : LoopEnd
  final : Option StepResult := none
  stepsTaken : Option ℕ := none
  origin : Option FailureOrigin := none
  error : Option String := none
  /-- These endings require a final transition. -/
  valid : ending = .submitted ∨ ending = .budget → final.isSome = true := by simp
  deriving DecidableEq

/-- A crash and its owner. -/
def LoopOutcome.crashed (origin : FailureOrigin) (text : String) : LoopOutcome :=
  { ending := .crash, origin := some origin, error := some text }

/-- Seconds without decimals, ties to even. -/
def formatSeconds (seconds : ℚ) : String :=
  let whole := seconds.floor
  let rest := seconds - whole
  if rest < 1 / 2 ∨ rest = 1 / 2 ∧ whole % 2 = 0 then toString whole else toString (whole + 1)

/-- The transition that stands for a step a deadline cut short. -/
def StepResult.timedOut : StepResult :=
  { StepResult.ofRun { stderr := "timed out" } with truncated := true }

/-- Whether a transition ends the episode. -/
def StepResult.terminal (result : StepResult) : Bool := result.terminated || result.truncated

/-! ## The loop -/

/-- What a batch has done. -/
structure Batch (A : Type) where
  transitions : List (A × StepResult) := []
  terminal : Bool := false
  submitRequested : Bool := false

section Loop

variable {A σ α : Type} (u : Unicode) (world : World A) (executor : StepExecutor A σ)

/-- Run code of the editable policy. -/
def askPolicy (event : Except PolicyError α → Event A) (ask : List (Event A) → Except PolicyError α) :
    LoopM A σ α := do
  match ← perform event ask with
  | .ok a => return a
  | .error error => throw (policyBoundary error)

/-- Add a row to the trace file. -/
def tell (row : TelemetryRow) : LoopM A σ Unit := do
  match ← perform (.telemetry row) fun trace ↦ world.telemetry trace row with
  | .ok () => return
  | .error text => throw (.foreign text)

/-- `policy.act()`, under the agent deadline and the stall deadline; `.error` is a policy that gives
up. -/
def act (stallTimeoutSec : ℚ) : LoopM A σ (Except String (List A)) := do
  match ← perform .act world.act with
  | .actions actions => return .ok actions
  | .noValidAction => return .ok []
  | .repeatedLengthCutoff text => return .error text
  | .deadline true => throw .taskTimeout
  | .deadline false =>
    throw (.stallTimeout
      s!"no action executed for {formatSeconds stallTimeoutSec}s; aborting stalled rollout")
  | .raised error => throw (policyBoundary error)

/-- `executor.prepare_submit()`, under the agent deadline. -/
def prepareSubmit : LoopM A σ (Option StepResult) :=
  tryCatch executor.prepareSubmit fun
    | .cancelled => throw .taskTimeout
    | .timeoutError text => throw (.envBoundary text)
    | error => throw error

/-- Execute a step under its deadlines.  A step that is cut short counts as a transition. -/
def bounded (step : LoopM A σ StepResult) : LoopM A σ (StepResult × Bool) :=
  tryCatch (do return (← step, false)) fun
    | .cancelled => return (.timedOut, true)
    | .timeoutError text => throw (.envBoundary text)
    | error => throw error

/-- Scrub a transition and put it on the action chain. -/
def recordStep (envAction : EnvAction) (result : StepResult) (timedOut : Bool) :
    LoopM A σ StepResult := do
  let stepResult := u.scrubStepResult envAction.command? result
  modify fun rollout ↦
    { rollout with actionChain := rollout.actionChain ++ [⟨envAction, stepResult, timedOut⟩] }
  return stepResult

/-- Execute one action of a batch: its transition, and whether it was a submit. -/
def executeAction (action : A) : LoopM A σ (StepResult × Bool) := do
  let name ← askPolicy (.name action) fun trace ↦ world.name trace action
  if name = SUBMIT_ACTION_NAME then
    let served ← prepareSubmit executor
    let (result, timedOut) ← bounded (served.elim executor.stepVerify pure)
    let stepResult ← recordStep u .verify result timedOut
    return (stepResult, true)
  else
    match ← askPolicy (.render action) fun trace ↦ world.render trace action with
    | .other typeName =>
      throw (.policyBoundary
        s!"ValueError: action route for '{name}' produced {typeName}; expected RunAction")
    | .run envAction =>
      let (result, timedOut) ← bounded (executor.stepRun envAction)
      let stepResult ← recordStep u (.run envAction) result timedOut
      return (stepResult, false)

/-- Execute the actions of a batch, up to the step cap or to a transition that ends the episode. -/
def executeBatch : List A → ℕ → LoopM A σ (Batch A)
  | [], _ => return {}
  | _ :: _, 0 => return {}
  | action :: actions, room + 1 => do
    let (transition, submitRequested) ← executeAction u world executor action
    if transition.terminal then
      return ⟨[(action, transition)], true, submitRequested⟩
    let rest ← executeBatch actions room
    return { rest with transitions := (action, transition) :: rest.transitions }

/-- Report the transitions of a batch, once all of it is executed. -/
def report (previousStepIndex : ℕ) : ℕ → List (A × StepResult) → LoopM A σ Unit
  | _, [] => return
  | callIndex, (action, transition) :: transitions => do
    tell world (.stepCompleted (previousStepIndex + callIndex + 1) callIndex transition
      transition.terminal)
    askPolicy (.observe action transition) fun trace ↦ world.observe trace action transition
    report previousStepIndex (callIndex + 1) transitions

/-- The end of an episode whose last transition is terminal. -/
def finish (submitRequested : Bool) (final : Option StepResult) (stepIndex : ℕ) :
    LoopM A σ LoopOutcome :=
  match final with
  | some result => return {
      ending := if submitRequested then .submitted else .budget
      final := some result
      stepsTaken := some stepIndex }
  | none => throw (.foreign (if submitRequested then
      "ValueError: LoopOutcome end='submitted' requires a final transition"
    else "ValueError: LoopOutcome end='budget' requires a final transition"))

variable (maxSteps : ℕ) (stallTimeoutSec : ℚ)

/-- The turns of the loop.  Every turn takes a step, so `maxSteps` turns are enough. -/
def turns : ℕ → ℕ → Option StepResult → LoopM A σ LoopOutcome
  | 0, stepIndex, final => return { ending := .stepCap, final, stepsTaken := some stepIndex }
  | fuel + 1, stepIndex, final => do
    if maxSteps ≤ stepIndex then
      return { ending := .stepCap, final, stepsTaken := some stepIndex }
    match ← act world stallTimeoutSec with
    | .error text =>
      return { ending := .gaveUp, final, stepsTaken := some stepIndex, error := some text }
    | .ok actions =>
      let batch ← executeBatch u world executor actions (maxSteps - stepIndex)
      -- a batch with an action executes at least one; without any, the turn is still a step
      let taken := max 1 batch.transitions.length
      if actions.isEmpty then
        tell world (.noValidActionStep (stepIndex + 1))
      report world stepIndex 0 batch.transitions
      let final := (batch.transitions.getLast?.map Prod.snd).or final
      if batch.terminal then
        finish batch.submitRequested final (stepIndex + taken)
      else
        turns fuel (stepIndex + taken) final

/-- Which exceptions are an ending; the others escape. -/
def classify : LoopError → LoopM A σ LoopOutcome
  | .envSetupTimeout => return { ending := .setupTimeout }
  | .stallTimeout text => return { ending := .stallTimeout, error := some text }
  | .taskTimeout => return { ending := .taskTimeout }
  | .unscorableInfra text => return { ending := .unscorableInfra, error := some text }
  | .frameworkEnv text => return .crashed .env text
  | .stepExecution text => return .crashed .env text
  | .envBoundary text => return .crashed .env text
  | .policyBoundary text => return .crashed .policy text
  | error => throw error

/-- Reset the environment and bring up what the executor needs. -/
def setup : LoopM A σ RawEnvOutput :=
  tryCatch (do
    let output ← (← perform .reset world.reset).orRaise EnvError.raw
    executor.provision
    return output) fun error ↦ throw (setupBoundary error)

/-- One whole episode, from the setup on. -/
def episode : LoopM A σ LoopOutcome := do
  let initial ← setup world executor
  askPolicy (.policyReset initial) fun trace ↦ world.policyReset trace initial
  turns u world executor maxSteps stallTimeoutSec maxSteps 0 none

/-- `run_task_loop`. -/
def runTaskLoop : LoopM A σ LoopOutcome :=
  tryCatch (episode u world executor maxSteps stallTimeoutSec) classify

end Loop

/-- More turns than steps change nothing. -/
theorem turns_fuel {A σ : Type} (u : Unicode) (world : World A) (executor : StepExecutor A σ)
    (maxSteps : ℕ) (stallTimeoutSec : ℚ) :
    ∀ (fuel stepIndex : ℕ) (final : Option StepResult), maxSteps ≤ fuel + stepIndex →
      turns u world executor maxSteps stallTimeoutSec (fuel + 1) stepIndex final =
        turns u world executor maxSteps stallTimeoutSec fuel stepIndex final
  | 0, stepIndex, final, h => by
    rw [turns, turns, if_pos (by omega)]
  | fuel + 1, stepIndex, final, h => by
    have hnext : ∀ taken final', turns u world executor maxSteps stallTimeoutSec (fuel + 1)
        (stepIndex + max 1 taken) final' =
          turns u world executor maxSteps stallTimeoutSec fuel (stepIndex + max 1 taken) final' :=
      fun taken final' ↦ turns_fuel u world executor maxSteps stallTimeoutSec fuel _ final' (by omega)
    rw [turns, turns]
    simp only [hnext]

end HarnessTraining
