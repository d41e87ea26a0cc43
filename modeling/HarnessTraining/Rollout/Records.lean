import Mathlib.Data.List.AList
import Mathlib.Data.Finset.Basic
import Mathlib.Data.Finset.Filter
import Mathlib.Data.Rat.Defs

/-!
# Run records

The persisted shapes of `src/rollout/records.py`: one `RolloutResult` per task, collected in an
`ExperimentResult` keyed by task id.  A Python `dict` is an `AList`, which keeps insertion order
and cannot hold a key twice; a `frozenset` is a `Finset`.

Numeric metrics are exact rationals here.  Whether a metric was written as an `int` or a `float`
matters only where it is serialised, and that happens on the `StepResult` of `Env/Base.lean`.

A `RolloutResult` carries the proof of its own validator, so an errored solve or a crash without
an owner cannot be built.  An `ExperimentResult` does not: `model_copy` skips validation, so the
program really does hold records in memory that its validator would reject, and
`ExperimentResult.check` is run only where a record is constructed or loaded.
-/

set_option autoImplicit false

namespace HarnessTraining

abbrev TaskId := String

/-- A git object name, as `hexsha` spells it. -/
abbrev Sha := String

/-- Wall-clock stamps are only ever stored and tested for presence. -/
abbrev Timestamp := ℤ

/-! ## Outcomes of one rollout -/

inductive RunKind where
  | baseline | candidate | eval
  deriving DecidableEq, Repr

inductive FailureMode where
  | solved | verifiedRejected | hitStepCap | hitTimeout | verifyTimeout | noValidAction | crash
  | unscorableInfra
  deriving DecidableEq, Repr

inductive FailureOrigin where
  | policy | env
  deriving DecidableEq, Repr

/-- Infra broke the rollout: no verdict, no secondary cost. -/
def unscorableFailureModes : List FailureMode := [.crash, .unscorableInfra]

/-- Grading never finished; the agent loop did run, so secondary cost still counts. -/
def verdictUntrustedFailureModes : List FailureMode := unscorableFailureModes ++ [.verifyTimeout]

inductive DecisionOutcome where
  | promoted | rejected | invalidInfra
  deriving DecidableEq, Repr

inductive SecondaryRewardOutcome where
  | candidateBetter | baselineBetter | tied | unavailable
  deriving DecidableEq, Repr

/-- One rollout outcome with its generic metrics.  The last two fields are the model validator. -/
structure RolloutResult where
  taskId : TaskId
  failureMode : FailureMode
  failureOrigin : Option FailureOrigin := none
  error : Option String := none
  metrics : AList fun _ : String ↦ ℚ := ∅
  /-- `failure_origin must be present exactly for crash results` -/
  origin_iff : failureMode = .crash ↔ failureOrigin.isSome = true := by decide
  /-- `errored rollouts cannot be solved` -/
  error_unsolved : error.isSome = true → failureMode ≠ .solved := by decide

/-! ## Outcomes of one run -/

/-- One compact baseline-vs-candidate secondary reward comparison. -/
structure SecondaryRewardComparison where
  name : String
  baselineValue : Option ℚ := none
  candidateValue : Option ℚ := none
  outcome : SecondaryRewardOutcome
  deriving DecidableEq, Repr

/-- The promotion verdict, persisted so that it is never re-derived. -/
structure ResultDecision where
  outcome : DecisionOutcome
  reason : String
  candidateSolved : Finset TaskId := ∅
  baselineSolved : Finset TaskId := ∅
  newSolves : Finset TaskId := ∅
  regressions : Finset TaskId := ∅
  secondaryRewards : List SecondaryRewardComparison := []
  invalidInfraTasks : Finset TaskId := ∅
  criterion : Option String := none
  deriving DecidableEq

structure MeasurementIdentity where
  effectiveConfigDigest : String
  providerRevision : String
  replayRegimeDigest : String
  deriving DecidableEq, Repr

inductive CertificationVerdict where
  | deterministic | forked | noChain
  deriving DecidableEq, Repr

structure TaskCertification where
  chainDigest : String
  verdict : CertificationVerdict
  deriving DecidableEq, Repr

/-- The canonical run record: rollout outcomes keyed by task.  A task whose rollout has not
finished is present with the value `none`. -/
structure ExperimentResult where
  experimentId : String
  gitCommitHash : Sha
  measurementIdentity : MeasurementIdentity
  kind : Option RunKind := none
  parentCommitHash : Option Sha := none
  baselineExperimentId : Option String := none
  startedAt : Timestamp := 0
  finishedAt : Option Timestamp := none
  crashReason : Option String := none
  tasks : AList fun _ : TaskId ↦ Option RolloutResult
  decision : Option ResultDecision := none
  /-- `none` is not yet certified; the empty map is certified with nothing excluded. -/
  determinismCertification : Option (AList fun _ : TaskId ↦ TaskCertification) := none

namespace ExperimentResult

/-- The finished rollout of a task, if the run has one. -/
def rollout? (experiment : ExperimentResult) (task : TaskId) : Option RolloutResult :=
  (experiment.tasks.lookup task).join

/-- The tasks of a run, as a set. -/
def panel (experiment : ExperimentResult) : Finset TaskId := experiment.tasks.keys.toFinset

/-- The tasks with a finished rollout whose failure mode satisfies `p`. -/
def tasksWhere (experiment : ExperimentResult) (p : FailureMode → Bool) : Finset TaskId :=
  experiment.panel.filter fun task ↦ (experiment.rollout? task).any fun r ↦ p r.failureMode

theorem mem_panel {experiment : ExperimentResult} {task : TaskId} :
    task ∈ experiment.panel ↔ task ∈ experiment.tasks := by
  simp [panel, AList.mem_keys]

theorem rollout?_eq_some {experiment : ExperimentResult} {task : TaskId} {r : RolloutResult} :
    experiment.rollout? task = some r ↔ experiment.tasks.lookup task = some (some r) := by
  simp [rollout?, Option.join_eq_some_iff]

theorem mem_panel_of_rollout? {experiment : ExperimentResult} {task : TaskId} {r : RolloutResult}
    (h : experiment.rollout? task = some r) : task ∈ experiment.panel := by
  rw [mem_panel, ← AList.lookup_isSome, rollout?_eq_some.mp h]
  rfl

theorem mem_tasksWhere {experiment : ExperimentResult} {p : FailureMode → Bool} {task : TaskId} :
    task ∈ experiment.tasksWhere p ↔
      ∃ r, experiment.rollout? task = some r ∧ p r.failureMode = true := by
  rw [tasksWhere, Finset.mem_filter, Option.any_eq_true]
  exact ⟨fun h ↦ h.2, fun ⟨r, hr, hp⟩ ↦ ⟨mem_panel_of_rollout? hr, r, hr, hp⟩⟩

theorem tasksWhere_subset_panel (experiment : ExperimentResult) (p : FailureMode → Bool) :
    experiment.tasksWhere p ⊆ experiment.panel := Finset.filter_subset _ _

/-- A task has one rollout, so two exclusive tests select disjoint tasks. -/
theorem tasksWhere_disjoint {experiment : ExperimentResult} {p q : FailureMode → Bool}
    (h : ∀ m, p m = true → q m = false) :
    Disjoint (experiment.tasksWhere p) (experiment.tasksWhere q) := by
  rw [Finset.disjoint_left]
  intro task hp hq
  obtain ⟨r, hr, hpr⟩ := mem_tasksWhere.mp hp
  obtain ⟨r', hr', hqr⟩ := mem_tasksWhere.mp hq
  obtain rfl : r = r' := Option.some_inj.mp (hr.symm.trans hr')
  simp [h _ hpr] at hqr

/-- The record's own validator: a crash needs a finish stamp, and a finished, non-crashed record
needs a result for every task, filed under the task's own id. -/
def check (experiment : ExperimentResult) : Except String Unit := do
  if experiment.crashReason.isSome ∧ experiment.finishedAt.isNone then
    throw "crashed experiments must have finished_at"
  if experiment.finishedAt.isSome ∧ experiment.crashReason.isNone then
    experiment.tasks.entries.forM fun entry ↦
      match entry.2 with
      | none => throw "finished experiments require task results"
      | some rollout =>
        if rollout.taskId ≠ entry.1 then throw "task result id must match its map key"
        else pure ()

end ExperimentResult

/-- The tasks a run solved. -/
def solvedTaskIds (experiment : ExperimentResult) : Finset TaskId :=
  experiment.tasksWhere fun mode ↦ decide (mode = .solved)

theorem mem_solvedTaskIds {experiment : ExperimentResult} {task : TaskId} :
    task ∈ solvedTaskIds experiment ↔
      ∃ r, experiment.rollout? task = some r ∧ r.failureMode = .solved := by
  simp [solvedTaskIds, ExperimentResult.mem_tasksWhere]

end HarnessTraining
