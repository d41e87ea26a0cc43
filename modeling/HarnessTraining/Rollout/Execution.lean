import HarnessTraining.Library.StateExcept
import HarnessTraining.Rollout.Certification

/-!
# Step execution

The seam of `src/rollout/execution.py` between the episode loop and the environment, and what lies
beyond it.  Everything a rollout learns from outside (the environment, the shared store, the clock,
the editable policy, the trace file) is an `Event`, and a `World` answers each question from all that
happened before.  A statement about every world is one about every environment, every policy, every
store and every moment at which a deadline fires.

`asyncio` delivers a deadline as a cancellation of the call that is being awaited, so it is one of
the answers a call can get.
-/

set_option autoImplicit false

namespace HarnessTraining

open StateExcept

/-! ## Exceptions -/

/-- The exceptions that travel through the episode loop.  A text is what `error_text` makes of the
exception, or of its cause. -/
inductive LoopError where
  /-- A deadline cancelled the call. -/
  | cancelled
  | timeoutError (text : String)
  | executionDrift (actionIndex : ℕ) (diagnostic : Json)
  | frameworkEnv (text : String)
  | unscorableInfra (text : String)
  | stepExecution (text : String)
  | policyBoundary (text : String)
  | envBoundary (text : String)
  | envSetupTimeout
  | taskTimeout
  | stallTimeout (text : String)
  /-- Any other exception: a framework defect. -/
  | foreign (text : String)
  deriving DecidableEq

/-- Why a call outside did not return. -/
inductive Interrupt where
  | cancelled
  | raised (error : EnvError)
  deriving DecidableEq

abbrev Answer (α : Type) := Except Interrupt α

/-- An exception of the environment, as it is. -/
def EnvError.raw : EnvError → LoopError
  | .frameworkEnv text => .frameworkEnv text
  | .timeout text => .timeoutError text
  | .unscorableInfra text => .unscorableInfra text
  | .other text => .foreign text

/-- An exception of the environment after the one exception ladder at its boundary. -/
def EnvError.crossing : EnvError → LoopError
  | .other text => .stepExecution text
  | error => error.raw

/-- What code of the editable policy may raise.  `framework` is a `FrameworkError`, with its
cause. -/
inductive PolicyError where
  | completionInfra (text : String)
  | framework (cause : LoopError)
  | taskTimeout
  | stallTimeout (text : String)
  | other (text : String)
  deriving DecidableEq

/-- What `policy.act()` comes to. -/
inductive ActAnswer (A : Type) where
  | actions (actions : List A)
  | noValidAction
  | repeatedLengthCutoff (text : String)
  /-- A deadline fired: the agent's, or the stall deadline. -/
  | deadline (agent : Bool)
  | raised (error : PolicyError)

/-- What `build_env_action` returns. -/
inductive Rendered where
  | run (action : RunAction)
  /-- An object of another type. -/
  | other (typeName : String)
  deriving DecidableEq

/-- A row the episode loop adds to the trace file. -/
inductive TelemetryRow where
  | noValidActionStep (stepIndex : ℕ)
  | stepCompleted (stepIndex callIndex : ℕ) (stepResult : StepResult) (terminal : Bool)

/-- What closing the environment and the backend comes to: the texts of their exceptions, or the
deadline. -/
inductive CloseAnswer where
  | timedOut
  | closed (env llm : Option String)
  deriving DecidableEq

/-! ## The outside world -/

/-- One exchange with the outside, with its answer.  `A` is the type of the policy's actions. -/
inductive Event (A : Type) where
  /-- Importing the policy module and building the policy; a text is the type of an object that is
  not a `Policy`. -/
  | build (answer : Except PolicyError (Option String))
  | reset (answer : Answer RawEnvOutput)
  | provision (answer : Answer Unit)
  | execute (action : RunAction) (answer : Answer RawEnvOutput)
  | verify (answer : Answer VerifyOutcome)
  | writeVerifyArtifacts (result : StepResult) (answer : Answer Unit)
  | get (key : String) (answer : Answer (Option String))
  | put (key value : String) (answer : Answer Unit)
  | elapsed (seconds : ℚ)
  | policyReset (output : RawEnvOutput) (answer : Except PolicyError Unit)
  | act (answer : ActAnswer A)
  | name (action : A) (answer : Except PolicyError String)
  | render (action : A) (answer : Except PolicyError Rendered)
  | observe (action : A) (transition : StepResult) (answer : Except PolicyError Unit)
  | telemetry (row : TelemetryRow) (answer : Except String Unit)
  | close (answer : CloseAnswer)
  | writeChain (steps : List ChainStep) (answer : Except String Unit)

/-- How the outside answers, given all that happened. -/
structure World (A : Type) where
  build : List (Event A) → Except PolicyError (Option String)
  reset : List (Event A) → Answer RawEnvOutput
  provision : List (Event A) → Answer Unit
  execute : List (Event A) → RunAction → Answer RawEnvOutput
  verify : List (Event A) → Answer VerifyOutcome
  /-- Whether the environment is a `VerifyArtifactWriter`. -/
  isVerifyArtifactWriter : Bool
  writeVerifyArtifacts : List (Event A) → StepResult → Answer Unit
  get : List (Event A) → String → Answer (Option String)
  put : List (Event A) → String → String → Answer Unit
  elapsed : List (Event A) → ℚ
  policyReset : List (Event A) → RawEnvOutput → Except PolicyError Unit
  act : List (Event A) → ActAnswer A
  name : List (Event A) → A → Except PolicyError String
  render : List (Event A) → A → Except PolicyError Rendered
  observe : List (Event A) → A → StepResult → Except PolicyError Unit
  telemetry : List (Event A) → TelemetryRow → Except String Unit
  close : List (Event A) → CloseAnswer
  writeChain : List (Event A) → List ChainStep → Except String Unit

/-- A rollout in progress: what happened so far, oldest first, the state of its executor, and the
action chain. -/
structure Rollout (A σ : Type) where
  trace : List (Event A) := []
  executor : σ
  actionChain : List ChainStep := []

abbrev LoopM (A σ : Type) := Prog (Rollout A σ) LoopError

section Boundary

variable {A σ α : Type}

/-- Add an event to the trace. -/
def Rollout.push (rollout : Rollout A σ) (event : Event A) : Rollout A σ :=
  { rollout with trace := rollout.trace ++ [event] }

/-- Put a question to the outside. -/
def perform (event : α → Event A) (ask : List (Event A) → α) : LoopM A σ α := do
  let rollout ← get
  let answer := ask rollout.trace
  set (rollout.push (event answer))
  return answer

/-- Pass an answer on; `raise` says what becomes of an exception. -/
def Answer.orRaise (raise : EnvError → LoopError) : Answer α → LoopM A σ α
  | .ok a => return a
  | .error .cancelled => throw .cancelled
  | .error (.raised error) => throw (raise error)

variable (world : World A)

/-- `execute_env_action`: the single mapping of an action to its transition. -/
def executeEnvAction : EnvAction → LoopM A σ StepResult
  | .run action => do
    let answer ← perform (.execute action) fun trace ↦ world.execute trace action
    return .ofRun (← answer.orRaise EnvError.crossing)
  | .verify => do
    let answer ← perform .verify world.verify
    return .ofVerify (← answer.orRaise EnvError.crossing)

end Boundary

section Rules

variable {A σ α : Type} {event : α → Event A} {ask : List (Event A) → α}
  {Q : α → Rollout A σ → Prop} {E : LoopError → Rollout A σ → Prop} {s : Rollout A σ}

@[simp]
theorem wp_perform : wp (perform event ask) Q E s ↔ Q (ask s.trace) (s.push (event (ask s.trace))) :=
  Iff.rfl

theorem Answer.wp_orRaise {raise : EnvError → LoopError} {answer : Answer α} :
    wp (answer.orRaise raise) Q E s ↔ (∀ a, answer = .ok a → Q a s) ∧
      (answer = .error .cancelled → E .cancelled s) ∧
      ∀ error, answer = .error (.raised error) → E (raise error) s := by
  rcases answer with (_ | error) | a <;> simp [Answer.orRaise]

end Rules

/-! ## Executors -/

/-- `StepExecutor`. -/
structure StepExecutor (A σ : Type) where
  provision : LoopM A σ Unit
  stepRun : RunAction → LoopM A σ StepResult
  prepareSubmit : LoopM A σ (Option StepResult)
  stepVerify : LoopM A σ StepResult

/-- Every action runs directly against the live environment. -/
def liveStepExecutor {A : Type} (world : World A) : StepExecutor A Unit where
  provision := do
    let answer ← perform .provision world.provision
    answer.orRaise EnvError.raw
  stepRun action := executeEnvAction world (.run action)
  prepareSubmit := return none
  stepVerify := executeEnvAction world .verify

end HarnessTraining
