import HarnessTraining.Replay.Codec
import HarnessTraining.Replay.Keys
import HarnessTraining.Replay.Recordability
import HarnessTraining.Rollout.Execution

/-!
# The step cache

`ReplayCache` of `src/plugins/replay/step_cache.py`: it serves recorded steps while the chain of
actions is known.  At the first miss it executes the served prefix again, checks that the environment
answers as recorded, and is live from then on.
-/

set_option autoImplicit false

namespace HarnessTraining

open StateExcept

/-- A step that was served, kept to be executed again. -/
structure ReplayedStep where
  action : RunAction
  key : String
  recordedHash : String
  deriving DecidableEq

/-- The state of a `ReplayCache`. -/
structure ReplayCache where
  digest : String
  replayed : List ReplayedStep := []
  live : Bool := false
  recordableChain : Bool := true
  verifyKey : Option String := none
  deriving DecidableEq

/-- A fresh cache for a scope. -/
def ReplayCache.new (hexdigest : Hexdigest) (scope : ReplayScope) : ReplayCache where
  digest := scopeDigest hexdigest scope

namespace ReplayCache

variable {A : Type} (u : Unicode) (hexdigest : Hexdigest) (scope : ReplayScope) (world : World A)

/-- Change the state of the cache. -/
def update (f : ReplayCache → ReplayCache) : LoopM A ReplayCache Unit :=
  modify fun rollout ↦ { rollout with executor := f rollout.executor }

/-- `cache.get`: a read that fails is a miss. -/
def cacheGet (key : String) : LoopM A ReplayCache (Option String) := do
  match ← perform (.get key) fun trace ↦ world.get trace key with
  | .ok value => return value
  | .error .cancelled => throw .cancelled
  | .error (.raised _) => return none

/-- `cache.put`: a write that fails is dropped. -/
def cachePut (key value : String) : LoopM A ReplayCache Unit := do
  match ← perform (.put key value) fun trace ↦ world.put trace key value with
  | .ok () => return
  | .error .cancelled => throw .cancelled
  | .error (.raised _) => return

/-- `_deserialize`, of a row.  The text of the exception depends on what is wrong with the row. -/
def readRow (text : String) : LoopM A ReplayCache StepResult :=
  match deserialize text with
  | some result => return result
  | none => throw (.foreign "the row is not a step result")

/-- `_advance`. -/
def advance (action : EnvAction) : LoopM A ReplayCache String := do
  update fun cache ↦ { cache with digest := advanceDigest hexdigest cache.digest action }
  let rollout ← get
  return keyOf rollout.executor.digest

/-- `_serve_replay`. -/
def serveReplay (key : String) : LoopM A ReplayCache (Option StepResult) := do
  let rollout ← get
  if rollout.executor.live then
    return none
  match ← cacheGet world (blockedKey key) with
  | some _ =>
    update fun cache ↦ { cache with recordableChain := false }
    return none
  | none =>
    match ← cacheGet world key with
    | none => return none
    | some text => return some (← readRow text)

/-- The end of `_serve_replay`, for a step that is not marked. -/
def serveRow (key : String) : LoopM A ReplayCache (Option StepResult) := do
  match ← cacheGet world key with
  | none => return none
  | some text => return some (← readRow text)

/-- `_recorded_result_for_error`. -/
def recordedResultForError (replayed : ReplayedStep) : LoopM A ReplayCache StepResult := do
  match ← cacheGet world replayed.key with
  | none =>
    throw (.foreign s!"RuntimeError: recorded env step cache payload disappeared for {replayed.key}")
  | some text =>
    return u.scrubStepResult replayed.action.command (← readRow text)

/-- `_materialize`, from the step of that index on. -/
def materializeFrom : ℕ → List ReplayedStep → LoopM A ReplayCache Unit
  | _, [] => return
  | actionIndex, replayed :: rest => do
    let result ← executeEnvAction world (.run replayed.action)
    let live := u.scrubStepResult replayed.action.command result
    if u.scrubbedHash hexdigest.digest replayed.action.command live ≠ replayed.recordedHash then
      cachePut world (blockedKey replayed.key) blockedValue
      let recorded ← recordedResultForError u world replayed
      throw (.executionDrift actionIndex (.obj [
        ("namespace", .str scope.replayNamespace),
        ("epoch", .int scope.epoch),
        ("action", actionPayload (.run replayed.action)),
        ("recorded", recorded.toJson),
        ("live", live.toJson)]))
    materializeFrom (actionIndex + 1) rest

/-- `_materialize`. -/
def materialize : LoopM A ReplayCache Unit := do
  let rollout ← get
  materializeFrom u hexdigest scope world 1 rollout.executor.replayed
  update fun cache ↦ { cache with replayed := [] }

/-- `_go_live`. -/
def goLive : LoopM A ReplayCache Unit := do
  let rollout ← get
  if rollout.executor.live then
    return
  update fun cache ↦ { cache with live := true }
  materialize u hexdigest scope world

/-- `_record_run`. -/
def recordRun (key : String) (action : RunAction) (result : StepResult) (elapsedSec : ℚ) :
    LoopM A ReplayCache Unit := do
  let rollout ← get
  if rollout.executor.recordableChain = false then
    return
  match skipRecordingReason u action result elapsedSec with
  | some _ => update fun cache ↦ { cache with recordableChain := false }
  | none => cachePut world key (serializeStepResult result)

/-- `step_run`. -/
def stepRun (action : RunAction) : LoopM A ReplayCache StepResult := do
  let key ← advance hexdigest (.run action)
  match ← serveReplay world key with
  | some result =>
    update fun cache ↦ { cache with
      replayed := cache.replayed ++
        [⟨action, key, u.scrubbedHash hexdigest.digest action.command result⟩] }
    return result
  | none =>
    goLive u hexdigest scope world
    let result ← executeEnvAction world (.run action)
    let elapsedSec ← perform .elapsed world.elapsed
    recordRun u world key action result elapsedSec
    return result

/-- `prepare_submit`. -/
def prepareSubmit : LoopM A ReplayCache (Option StepResult) := do
  let key ← advance hexdigest .verify
  update fun cache ↦ { cache with verifyKey := some key }
  match ← serveReplay world key with
  | some result =>
    if world.isVerifyArtifactWriter then
      let answer ← perform (.writeVerifyArtifacts result) fun trace ↦
        world.writeVerifyArtifacts trace result
      answer.orRaise EnvError.raw
    return some result
  | none =>
    goLive u hexdigest scope world
    return none

/-- `step_verify`. -/
def stepVerify : LoopM A ReplayCache StepResult := do
  let rollout ← get
  match rollout.executor.verifyKey with
  | none => throw (.foreign "RuntimeError: prepare_submit must be called before step_verify")
  | some key =>
    if rollout.executor.live = false then
      throw (.foreign "RuntimeError: prepare_submit must go live before step_verify")
    let result ← executeEnvAction world .verify
    let rollout ← get
    if rollout.executor.recordableChain then
      cachePut world key (serializeStepResult result)
    return result

/-- `ReplayCache` as an executor.  It brings nothing up in advance. -/
def executor : StepExecutor A ReplayCache where
  provision := return
  stepRun := stepRun u hexdigest scope world
  prepareSubmit := prepareSubmit u hexdigest scope world
  stepVerify := stepVerify world

end ReplayCache

end HarnessTraining
