import HarnessTraining.Rollout.Records
import Mathlib.Algebra.BigOperators.Group.Finset.Defs
import Mathlib.Algebra.Order.Ring.Rat
import Mathlib.Data.Finset.Sort
import Mathlib.Data.String.Basic

/-!
# Secondary reward metrics

The tie-breakers of `src/rollout/metrics.py`, and the one `src/env/swe.py` adds.  A metric is its
name, its direction, and the pair of values it reads off a baseline and a candidate run;
`SecondaryRewardMetric.compare` turns the pair into an outcome.

Every shipped metric restricts itself to a scope computed from *both* runs, so the value a run is
given depends on what it is compared with.  `InvalidFirstAttemptsMetric` may refuse to answer: it
raises when a rollout published only one half of its ratio.
-/

set_option autoImplicit false

namespace HarnessTraining

/-- A metric reads a value for the baseline and one for the candidate; `none` is an absent value
and `throw` is the `ValueError` a metric raises on malformed records. -/
structure SecondaryRewardMetric where
  name : String
  higherIsBetter : Bool
  /-- `values baseline candidate`. -/
  values : ExperimentResult → ExperimentResult → Except String (Option ℚ × Option ℚ)

namespace SecondaryRewardMetric

/-- How a pair of values compares under a direction. -/
def outcomeOf (higherIsBetter : Bool) : Option ℚ → Option ℚ → SecondaryRewardOutcome
  | some baselineValue, some candidateValue =>
    if candidateValue = baselineValue then .tied
    else if decide (baselineValue < candidateValue) = higherIsBetter then .candidateBetter
    else .baselineBetter
  | _, _ => .unavailable

def compare (metric : SecondaryRewardMetric) (baseline candidate : ExperimentResult) :
    Except String SecondaryRewardComparison := do
  let (baselineValue, candidateValue) ← metric.values baseline candidate
  return {
    name := metric.name
    baselineValue := baselineValue
    candidateValue := candidateValue
    outcome := outcomeOf metric.higherIsBetter baselineValue candidateValue }

/-- Whether a failure mode leaves a rollout that carries meaningful cost. -/
def scorable (mode : FailureMode) : Bool := decide (mode ∉ unscorableFailureModes)

end SecondaryRewardMetric

open SecondaryRewardMetric

/-- The tasks of a run whose rollout is scorable. -/
def scorableTaskIds (experiment : ExperimentResult) : Finset TaskId :=
  experiment.tasksWhere scorable

/-- `rollout.metrics.get(key, 0)`, for a task that has a rollout. -/
def metricOr0 (experiment : ExperimentResult) (key : String) (task : TaskId) : ℚ :=
  (((experiment.rollout? task).bind fun r ↦ r.metrics.lookup key)).getD 0

/-- `key in rollout.metrics`, for a task that has a rollout. -/
def publishes (experiment : ExperimentResult) (key : String) (task : TaskId) : Bool :=
  ((experiment.rollout? task).bind fun r ↦ r.metrics.lookup key).isSome

/-! ## Invalid first attempts -/

def firstAttemptValidKey : String := "first_attempt_valid"

def firstAttemptTotalKey : String := "first_attempt_total"

namespace InvalidFirstAttemptsMetric

/-- `_invalid`: total minus valid over the scope, if any task of the scope published.  Python
walks a set, so which malformed task is named is unspecified; here it is the least one. -/
def invalid (experiment : ExperimentResult) (taskIds : Finset TaskId) :
    Except String (Option ℚ) :=
  let malformed := taskIds.filter fun task ↦
    publishes experiment firstAttemptValidKey task ≠ publishes experiment firstAttemptTotalKey task
  match malformed.sort (· ≤ ·) with
  | task :: _ =>
    throw s!"{task}: first_attempt metric numerator/denominator must be published together"
  | [] =>
    if ∃ task ∈ taskIds, publishes experiment firstAttemptTotalKey task = true then
      return some (∑ task ∈ taskIds, metricOr0 experiment firstAttemptTotalKey task
        - ∑ task ∈ taskIds, metricOr0 experiment firstAttemptValidKey task)
    else return none

def values (baseline candidate : ExperimentResult) : Except String (Option ℚ × Option ℚ) := do
  let scope := scorableTaskIds baseline ∩ scorableTaskIds candidate
  return (← invalid baseline scope, ← invalid candidate scope)

end InvalidFirstAttemptsMetric

/-- Penalises invalid attempt-0 tool calls; an absolute count, never a valid/total ratio. -/
def invalidFirstAttemptsMetric : SecondaryRewardMetric where
  name := "invalid_first_attempts"
  higherIsBetter := false
  values := InvalidFirstAttemptsMetric.values

/-! ## Steps used -/

def stepsUsedKey : String := "steps_used"

namespace StepsUsedMetric

/-- `_steps`: the sum over the scope, or nothing as soon as one rollout lacks the key. -/
def steps (experiment : ExperimentResult) (taskIds : Finset TaskId) : Option ℚ :=
  if ∀ task ∈ taskIds, publishes experiment stepsUsedKey task = true then
    some (∑ task ∈ taskIds, metricOr0 experiment stepsUsedKey task)
  else none

def values (baseline candidate : ExperimentResult) : Except String (Option ℚ × Option ℚ) :=
  let scope := solvedTaskIds baseline ∩ solvedTaskIds candidate
  return (steps baseline scope, steps candidate scope)

end StepsUsedMetric

def stepsUsedMetric : SecondaryRewardMetric where
  name := "steps_used"
  higherIsBetter := false
  values := StepsUsedMetric.values

/-- Benchmark-generic tie-breakers, in order; the first decisive metric wins. -/
def genericSecondaryMetrics : List SecondaryRewardMetric :=
  [invalidFirstAttemptsMetric, stepsUsedMetric]

/-! ## SWE-bench test progress -/

def f2pPassedKey : String := "fail_to_pass_passed"

def p2pFailedKey : String := "pass_to_pass_failed"

namespace F2pProgressMetric

/-- `_contested`: unsolved, but scorable. -/
def contested (experiment : ExperimentResult) : Finset TaskId :=
  experiment.tasksWhere fun mode ↦ decide (mode ≠ .solved) && scorable mode

/-- `_progress`: tests fixed minus tests broken. -/
def progress (experiment : ExperimentResult) (taskIds : Finset TaskId) : ℚ :=
  ∑ task ∈ taskIds,
    (metricOr0 experiment f2pPassedKey task - metricOr0 experiment p2pFailedKey task)

def values (baseline candidate : ExperimentResult) : Except String (Option ℚ × Option ℚ) :=
  let scope := contested baseline ∩ contested candidate
  return (some (progress baseline scope), some (progress candidate scope))

end F2pProgressMetric

def f2pProgressMetric : SecondaryRewardMetric where
  name := "f2p_progress"
  higherIsBetter := true
  values := F2pProgressMetric.values

/-- The tie-breakers of `src/env/swe.py`. -/
def sweSecondaryMetrics : List SecondaryRewardMetric :=
  f2pProgressMetric :: genericSecondaryMetrics

end HarnessTraining
