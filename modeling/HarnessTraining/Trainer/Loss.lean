import HarnessTraining.Rollout.Metrics
import Mathlib.Algebra.Order.Field.Rat
import Mathlib.Order.WithBot

/-!
# The promotion criterion

`StrictPareto` of `src/trainer/loss.py`.  It compares the binary task verdicts of two runs as
sets: any regression is an infinite loss, a strictly larger solved set a negative one, and an
exact tie falls to the secondary metrics in order.

Infra noise enters through the tasks whose verdict is not to be trusted.  `StrictPareto.call`
brackets it: it judges the candidate once with every such task counted unsolved and once with
every one counted solved, and refuses to answer when the two disagree.  The report it returns is a
third judgement, in which a regression on an untrusted task is excused.

A loss is a `WithTop ℚ`: the float arithmetic of `_loss_value` is exact except for its underflow
at a thousand metrics, and `inf` is `⊤`.
-/

set_option autoImplicit false

namespace HarnessTraining

/-! ## Comparing two runs -/

/-- One pessimistic, optimistic, or measured view of a run comparison. -/
structure Comparison where
  baseline : ExperimentResult
  candidate : ExperimentResult
  candidateSolved : Finset TaskId
  invalidInfraTasks : Finset TaskId
  reason : String := ""
  secondaryRewards : List SecondaryRewardComparison := []

namespace Comparison

def baselineSolved (c : Comparison) : Finset TaskId := solvedTaskIds c.baseline

/-- What the baseline solved and the candidate lost, untrusted tasks excused. -/
def regressions (c : Comparison) : Finset TaskId :=
  (c.baselineSolved \ c.candidateSolved) \ c.invalidInfraTasks

def newSolves (c : Comparison) : Finset TaskId := c.candidateSolved \ c.baselineSolved

end Comparison

/-- A judged pair of runs.  `bound` says that the criterion had a harness when it judged: only
the loss of a trainer-bound criterion can be recorded. -/
structure Loss where
  value : WithTop ℚ
  criterion : String
  candidate : ExperimentResult
  baseline : ExperimentResult
  bound : Bool
  report : Comparison

/-- What a criterion raises instead of a loss. -/
inductive JudgeError where
  | valueError (message : String)
  | unmeasurableRun (decision : ResultDecision)

def decisionFromReport (report : Comparison) (outcome : DecisionOutcome) (reason : String)
    (regressions invalidInfraTasks : Finset TaskId) (criterion : String) : ResultDecision where
  outcome := outcome
  reason := reason
  candidateSolved := report.candidateSolved
  baselineSolved := report.baselineSolved
  newSolves := report.newSolves
  regressions := regressions
  secondaryRewards := report.secondaryRewards
  invalidInfraTasks := invalidInfraTasks
  criterion := some criterion

def restrictToPanel (experiment : ExperimentResult) (panel : Finset TaskId) : ExperimentResult :=
  { experiment with
    tasks := ⟨experiment.tasks.entries.filter fun entry ↦ entry.1 ∈ panel,
      (experiment.tasks.nodupKeys.sublist List.filter_sublist)⟩ }

def verdictSensitiveTaskIds (experiment : ExperimentResult) : Finset TaskId :=
  experiment.tasksWhere fun mode ↦ decide (mode ∈ verdictUntrustedFailureModes)

/-! ## StrictPareto -/

structure StrictPareto where
  secondaryMetrics : List SecondaryRewardMetric := []
  bound : Bool := false

namespace StrictPareto

def name : String := "strict_pareto"

/-- The loop over the secondary metrics: stop at the first decisive one. -/
def compareSecondary (baseline candidate : ExperimentResult) :
    List SecondaryRewardMetric → Except String (String × List SecondaryRewardComparison)
  | [] => return ("no_net_improvement", [])
  | metric :: rest => do
    let reward ← metric.compare baseline candidate
    match reward.outcome with
    | .candidateBetter => return ("secondary_reward_improvement", [reward])
    | .baselineBetter => return ("no_net_improvement", [reward])
    | _ =>
      let (reason, rewards) ← compareSecondary baseline candidate rest
      return (reason, reward :: rewards)

/-- `_compare`: the reason for a verdict, and the secondary comparisons it took. -/
def compare (sp : StrictPareto) (comparison : Comparison) :
    Except String (String × List SecondaryRewardComparison) :=
  if comparison.regressions.Nonempty then
    return ("regressed_baseline_tasks", [])
  else if comparison.candidateSolved.card > comparison.baselineSolved.card then
    return ("strict_improvement_without_regression", [])
  else
    compareSecondary comparison.baseline comparison.candidate sp.secondaryMetrics

def outcomeSign : SecondaryRewardOutcome → ℚ
  | .candidateBetter => -1
  | .baselineBetter => 1
  | _ => 0

/-- The weighted sum of the secondary outcomes, the first of them weighted `2⁻¹`. -/
def secondaryValue : ℕ → List SecondaryRewardComparison → ℚ
  | _, [] => 0
  | index, comparison :: rest =>
    (1 / 2) ^ (index + 1) * outcomeSign comparison.outcome + secondaryValue (index + 1) rest

/-- `_loss_value`: a negative value selects the candidate. -/
def lossValue (report : Comparison) : WithTop ℚ :=
  if report.regressions.Nonempty then ⊤
  else
    let primary : ℤ := -((report.candidateSolved.card : ℤ) - report.baselineSolved.card)
    if primary ≠ 0 then ((primary : ℚ) : WithTop ℚ)
    else (secondaryValue 0 report.secondaryRewards : WithTop ℚ)

/-- The local function `resolve`: one view of the pair, with its reason filled in. -/
def resolve (sp : StrictPareto) (baseline candidate : ExperimentResult)
    (solved reportedInvalid : Finset TaskId) : Except JudgeError Comparison := do
  let comparison : Comparison := {
    baseline := baseline
    candidate := candidate
    candidateSolved := solved
    invalidInfraTasks := reportedInvalid }
  match sp.compare comparison with
  | .error message => throw (.valueError message)
  | .ok (reason, secondaryRewards) =>
    return { comparison with reason := reason, secondaryRewards := secondaryRewards }

/-- The bracket of `__call__`: judge the untrusted tasks at their worst and at their best, and
raise when infra noise rather than the candidate decides. -/
def bracket (sp : StrictPareto) (baseline candidate : ExperimentResult)
    (candidateSolved invalidInfraTasks : Finset TaskId) : Except JudgeError Unit :=
  if invalidInfraTasks.Nonempty then do
    let pessimisticReport ← sp.resolve baseline candidate candidateSolved ∅
    let optimisticReport ← sp.resolve baseline candidate (candidateSolved ∪ invalidInfraTasks) ∅
    if decide (lossValue pessimisticReport < 0) = decide (lossValue optimisticReport < 0) then
      return ()
    else
      throw (.unmeasurableRun
        (decisionFromReport pessimisticReport .invalidInfra "infra_sensitive_verdict"
          (pessimisticReport.regressions \ invalidInfraTasks) invalidInfraTasks name))
  else return ()

/-- `StrictPareto.__call__`. -/
def call (sp : StrictPareto) (candidate baseline : ExperimentResult) : Except JudgeError Loss :=
  let panel := candidate.panel
  if panel ⊆ baseline.panel then do
    let baseline := restrictToPanel baseline panel
    let candidateSolved := solvedTaskIds candidate
    let invalidInfraTasks := verdictSensitiveTaskIds candidate
    sp.bracket baseline candidate candidateSolved invalidInfraTasks
    let report ← sp.resolve baseline candidate candidateSolved invalidInfraTasks
    return {
      value := lossValue report
      criterion := name
      candidate := candidate
      baseline := baseline
      bound := sp.bound
      report := report }
  else
    throw (.valueError "candidate ran tasks the baseline never measured")

/-- `StrictPareto.decision`, with `promoted` the answer of `Loss.promoted`. -/
def decision (loss : Loss) (promoted : Bool) : ResultDecision :=
  decisionFromReport loss.report (if promoted then .promoted else .rejected) loss.report.reason
    loss.report.regressions loss.report.invalidInfraTasks loss.criterion

end StrictPareto

end HarnessTraining
