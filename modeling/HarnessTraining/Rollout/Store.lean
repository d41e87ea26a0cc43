import HarnessTraining.Library.Json
import HarnessTraining.Rollout.Records
import Mathlib.Data.Finset.Card

/-!
# The run store

The experiment files and the run index of `src/rollout/store.py`.  An experiment file is replaced as
a whole; the index is a list of rows that only ever grows.

The digest of a measurement identity is the SHA-256 of its canonical JSON; the hash is a parameter.
-/

set_option autoImplicit false

namespace HarnessTraining

namespace MeasurementIdentity

/-- The canonical JSON of an identity. -/
def payload (identity : MeasurementIdentity) : String :=
  Json.dumps (.obj [
    ("effective_config_digest", .str identity.effectiveConfigDigest),
    ("provider_revision", .str identity.providerRevision),
    ("replay_regime_digest", .str identity.replayRegimeDigest)])

def digest (hexdigest : String → String) (identity : MeasurementIdentity) : String :=
  hexdigest identity.payload

end MeasurementIdentity

/-- One finalized run in the cross-run index. -/
structure RunIndexRow where
  experimentId : String
  kind : RunKind
  gitCommitHash : Sha
  measurementIdentityDigest : String
  parentCommitHash : Option Sha
  baselineExperimentId : Option String
  startedAt : Timestamp
  finishedAt : Timestamp
  crashReason : Option String
  solved : ℕ
  verdict : Option DecisionOutcome
  reason : Option String
  deriving DecidableEq

structure RunStore where
  files : AList fun _ : String ↦ ExperimentResult := ∅
  index : List RunIndexRow := []

namespace RunStore

def saveExperiment (store : RunStore) (result : ExperimentResult) : RunStore :=
  { store with files := store.files.insert result.experimentId result }

/-- `load_experiment`: reading a file runs the record's validator. -/
def loadExperiment (store : RunStore) (runId : String) : Except String ExperimentResult :=
  match store.files.lookup runId with
  | none => throw s!"no such file: {runId}"
  | some result => do
    result.check
    return result

/-- `mark_crashed`: the first reason stays. -/
def markCrashed (store : RunStore) (runId : String) (now : Timestamp) (reason : String) :
    Except String (RunStore × ExperimentResult) := do
  let result ← store.loadExperiment runId
  if result.crashReason.isSome then
    return (store, result)
  let crashed := { result with finishedAt := some now, crashReason := some reason }
  return (store.saveExperiment crashed, crashed)

/-- `log_rollout`: the whole record is read and written again. -/
def logRollout (store : RunStore) (runId : String) (rolloutResult : RolloutResult) :
    Except String RunStore := do
  let result ← store.loadExperiment runId
  return store.saveExperiment { result with
    tasks := result.tasks.insert rolloutResult.taskId (some rolloutResult) }

/-- `latest_completed_baseline`: the last row that is a finished baseline of the commit under the
identity. -/
def latestCompletedBaseline (store : RunStore) (baselineCommitHash : Sha)
    (measurementIdentityDigest : String) : Except String (Option ExperimentResult) :=
  match store.index.reverse.find? fun row ↦
      row.kind = .baseline ∧ row.crashReason = none ∧
        row.gitCommitHash = baselineCommitHash ∧
        row.measurementIdentityDigest = measurementIdentityDigest with
  | none => return none
  | some row => do return some (← store.loadExperiment row.experimentId)

/-- The relational facts a finalized run is given. -/
def withRelations (result : ExperimentResult) (kind : RunKind) (parentCommitHash : Option Sha)
    (baselineExperimentId : Option String) (decision : Option ResultDecision) : ExperimentResult :=
  { result with
    kind := some kind
    parentCommitHash := parentCommitHash
    baselineExperimentId := baselineExperimentId
    decision := decision }

/-- The index row of an updated run; a row without a finish stamp does not validate. -/
def indexRow (hexdigest : String → String) (updated : ExperimentResult) (kind : RunKind) :
    Except String RunIndexRow :=
  match updated.finishedAt with
  | none => throw "finished_at: Input should be a valid datetime"
  | some finishedAt => return {
      experimentId := updated.experimentId
      kind := kind
      gitCommitHash := updated.gitCommitHash
      measurementIdentityDigest := updated.measurementIdentity.digest hexdigest
      parentCommitHash := updated.parentCommitHash
      baselineExperimentId := updated.baselineExperimentId
      startedAt := updated.startedAt
      finishedAt := finishedAt
      crashReason := updated.crashReason
      solved := (solvedTaskIds updated).card
      verdict := updated.decision.map ResultDecision.outcome
      reason := updated.decision.map ResultDecision.reason }

/-- `record_finalized_run`. -/
def recordFinalizedRun (hexdigest : String → String) (store : RunStore) (result : ExperimentResult)
    (kind : RunKind) (parentCommitHash : Option Sha := none)
    (baselineExperimentId : Option String := none) (decision : Option ResultDecision := none) :
    Except String (RunStore × ExperimentResult) := do
  let updated := withRelations result kind parentCommitHash baselineExperimentId decision
  let row ← indexRow hexdigest updated kind
  let saved := store.saveExperiment updated
  return ({ saved with index := saved.index ++ [row] }, updated)

/-- A recorded run adds one row, which repeats what the run was given. -/
theorem recordFinalizedRun_ok {hexdigest : String → String} {store store' : RunStore}
    {result updated : ExperimentResult} {kind : RunKind} {parentCommitHash : Option Sha}
    {baselineExperimentId : Option String} {decision : Option ResultDecision}
    (h : recordFinalizedRun hexdigest store result kind parentCommitHash baselineExperimentId
      decision = .ok (store', updated)) :
    updated = withRelations result kind parentCommitHash baselineExperimentId decision ∧
      ∃ row, store'.index = store.index ++ [row] ∧ row.experimentId = result.experimentId ∧
        row.kind = kind ∧ row.gitCommitHash = result.gitCommitHash ∧
        row.parentCommitHash = parentCommitHash ∧
        row.verdict = decision.map ResultDecision.outcome := by
  rw [recordFinalizedRun, indexRow] at h
  split at h
  · cases h
  · cases h
    exact ⟨rfl, _, rfl, rfl, rfl, rfl, rfl, rfl⟩

end RunStore

end HarnessTraining
