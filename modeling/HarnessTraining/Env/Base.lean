import HarnessTraining.Env.Determinism
import HarnessTraining.Library.Json
import Mathlib.Algebra.Field.Rat

/-!
# The environment contract

`src/env/base.py`: what an environment is asked and what it answers.  A `StepResult` is built from
the environment's raw output and scrubbed before anybody compares it.

A Python `dict` that is only ever read as a mapping is kept with its keys in increasing order, so two
equal dictionaries are the same value.
-/

set_option autoImplicit false

namespace HarnessTraining

/-- Exit status of `timeout` when it had to stop a command. -/
def COMMAND_TIMEOUT_EXIT_CODE : ℤ := 124

/-- A Python number that is written to JSON: an `int` or a finite `float`. -/
inductive Number where
  | int (z : ℤ)
  | float (q : Decimal)
  deriving DecidableEq

namespace Number

def toJson : Number → Json
  | .int z => .int z
  | .float q => .float q

def ofJson? : Json → Option Number
  | .int z => some (.int z)
  | .float q => some (.float q)
  | _ => none

theorem ofJson?_toJson (n : Number) : ofJson? n.toJson = some n := by cases n <;> rfl

theorem normal_toJson (n : Number) : n.toJson.normal = n.toJson := by cases n <;> rfl

/-- The value of a number. -/
def toRat : Number → ℚ
  | .int z => z
  | .float q => q.mantissa * (10 : ℚ) ^ q.exponent

end Number

/-! ## Verdicts and outputs -/

structure VerifyVerdict where
  completed : Bool
  passed : Option Bool
  error : Option String
  /-- A completed verdict has `passed` and no error, an incomplete one an error and no `passed`. -/
  valid : if completed then passed.isSome ∧ error = none else error.isSome ∧ passed = none
  deriving DecidableEq

theorem VerifyVerdict.valid_passed :
    if true = true then (some true).isSome = true ∧ (none : Option String) = none
    else (none : Option String).isSome = true ∧ some true = none := by
  simp

/-- Policy-visible output after a reset or an action. -/
structure RawEnvOutput where
  instruction : String := ""
  workingDir : Option String := none
  exitCode : Option ℤ := none
  stdout : String := ""
  stderr : String := ""
  deriving DecidableEq

structure RunAction where
  command : String
  cwd : Option String := none
  timeoutSec : Option Number := none
  deriving DecidableEq

/-- `RunAction | VerifyAction`. -/
inductive EnvAction where
  | run (action : RunAction)
  | verify
  deriving DecidableEq

namespace EnvAction

/-- The command that gates command-conditioned scrub rules. -/
def command? : EnvAction → Option String
  | .run action => some action.command
  | .verify => none

end EnvAction

/-- A JSON-native dictionary. -/
structure Info where
  members : List (String × Json) := []
  dictionary : Json.Dictionary members := by exact ⟨List.Pairwise.nil, by simp⟩
  deriving DecidableEq

/-- A dictionary of numbers. -/
structure Metrics where
  members : List (String × Number) := []
  increasing : members.Pairwise (fun m m' ↦ m.1 < m'.1) := by exact List.Pairwise.nil
  deriving DecidableEq

/-- The empty dictionaries. -/
def Info.empty : Info := {}

def Metrics.empty : Metrics := {}

structure VerifyOutcome where
  verdict : VerifyVerdict
  output : RawEnvOutput
  reward : Number
  info : Info
  metrics : Metrics := {}

/-- The transition of one environment action. -/
structure StepResult where
  rawEnvOutput : RawEnvOutput
  reward : Number
  terminated : Bool
  truncated : Bool
  info : Info := {}
  metrics : Metrics := {}
  verdict : Option VerifyVerdict := none
  deriving DecidableEq

/-! ## Scrubbing -/

namespace Unicode

variable (u : Unicode)

def scrubString (command : Option String) (text : String) : String :=
  String.ofList (u.scrubNondeterminism text.toList (command.map String.toList))

/-- `scrub_raw_env_output`. -/
def scrubRawEnvOutput (command : Option String) (raw : RawEnvOutput) : RawEnvOutput :=
  { raw with
    stdout := u.scrubString command raw.stdout
    stderr := u.scrubString command raw.stderr }

/-- `scrub_step_result`. -/
def scrubStepResult (command : Option String) (result : StepResult) : StepResult :=
  { result with rawEnvOutput := u.scrubRawEnvOutput command result.rawEnvOutput }

end Unicode

/-! ## Transitions -/

/-- What a call of the environment may raise. -/
inductive EnvError where
  | frameworkEnv (text : String)
  | timeout (text : String)
  | unscorableInfra (text : String)
  | other (text : String)
  deriving DecidableEq

/-- The transition of a `RunAction`. -/
def StepResult.ofRun (raw : RawEnvOutput) : StepResult where
  rawEnvOutput := raw
  reward := .float .zero
  terminated := false
  truncated := false

/-- The transition of a `VerifyAction`. -/
def StepResult.ofVerify (outcome : VerifyOutcome) : StepResult where
  rawEnvOutput := outcome.output
  reward := outcome.reward
  terminated := true
  truncated := false
  info := outcome.info
  metrics := outcome.metrics
  verdict := some outcome.verdict

end HarnessTraining
