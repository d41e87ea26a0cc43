import HarnessTraining.Trainer.Parameter
import HarnessTraining.Trainer.Verdict

/-!
# Applying a verdict

The `Parameter` of `src/trainer/parameter.py`, the `Optimizer` of `src/trainer/optim.py`, and the
methods of `Loss` that touch the harness.  Three places hold the state of training: the pending
verdict `grad`, the commit `applied` that the optimizer selected when it last stepped, and `HEAD`,
which only a fast-forward merge moves.
-/

set_option autoImplicit false

namespace HarnessTraining

open StateExcept

/-- Storage for the harness: `head` is `HEAD`'s commit, which the source calls `.data`. -/
structure Parameter where
  repo : Repo
  head : Sha
  grad : Option Loss := none
  applied : Option Sha := none

/-- Where `git merge --ff-only target` leaves `HEAD`; `none` is a refusal.  Git may also refuse
because the work tree is in the way, which is what `allowed` says. -/
def mergeFfOnly (repo : Repo) (head target : Sha) (allowed : Bool) : Option Sha :=
  if allowed = false then none
  else if repo.isAncestor target head then some head  -- "Already up to date."
  else if repo.isAncestor head target then some target
  else none

namespace Loss

/-- `Loss.backward`. -/
def backward (loss : Loss) (harness : Parameter) : Except TrainerError Parameter :=
  if loss.bound then return { harness with grad := some loss }
  else throw (.runtimeError
    "criterion is unbound: only a Trainer-bound criterion's Loss can backward()")

/-- `Loss.promoted`. -/
def promoted (loss : Loss) (harness : Parameter) : Except TrainerError Bool :=
  match if loss.bound then harness.applied else none with
  | none => throw (.runtimeError "promoted is undefined before optimizer.step()")
  | some applied => return decide (applied = loss.candidate.gitCommitHash)

end Loss

/-- A step policy: which verdicts select their candidate. -/
structure Optimizer where
  shouldPromote : Loss → Bool

def greedyMonotonic : Optimizer where
  shouldPromote loss := decide (loss.value < 0)

namespace Optimizer

/-- The only two reachable targets: the judged candidate, or `HEAD` itself. -/
def target (optimizer : Optimizer) (harness : Parameter) (loss : Loss) : Sha :=
  if optimizer.shouldPromote loss then loss.candidate.gitCommitHash else harness.head

/-- `Optimizer.step`. -/
def step (optimizer : Optimizer) (harness : Parameter) (allowed : Bool) :
    Except TrainerError Parameter :=
  match harness.grad with
  | none => throw (.runtimeError
      "nothing to apply: run criterion and loss.backward() before optimizer.step()")
  | some loss =>
    let target := optimizer.target harness loss
    match mergeFfOnly harness.repo harness.head target allowed with
    | none => throw (.gitCommandError s!"merge --ff-only {target}")
    | some head => return { harness with head := head, applied := some target }

end Optimizer

/-! ## The criterion contract -/

/-- A criterion, with what the framework relies on: a loss carries the candidate it judged, an
undecidable verdict is reported as infra noise, and a rendered decision says what was applied. -/
structure Criterion where
  name : String
  /-- `__call__`, of the candidate and the baseline. -/
  judge : ExperimentResult → ExperimentResult → Except JudgeError Loss
  /-- `decision`, given the answer of `Loss.promoted`. -/
  decision : Loss → Bool → ResultDecision
  judge_candidate : ∀ {candidate baseline loss},
    judge candidate baseline = .ok loss → loss.candidate = candidate
  judge_unmeasurable : ∀ {candidate baseline decision},
    judge candidate baseline = .error (.unmeasurableRun decision) → decision.outcome = .invalidInfra
  decision_outcome : ∀ loss promoted,
    (decision loss promoted).outcome = if promoted then .promoted else .rejected

/-- `StrictPareto` as the trainer binds it. -/
def StrictPareto.criterion (secondaryMetrics : List SecondaryRewardMetric) : Criterion where
  name := StrictPareto.name
  judge := StrictPareto.call ⟨secondaryMetrics, true⟩
  decision := StrictPareto.decision
  judge_candidate := by
    intro candidate baseline loss h
    simp only [StrictPareto.call] at h
    split at h
    · obtain ⟨_, -, h⟩ := bind_eq_ok h
      obtain ⟨_, -, h⟩ := bind_eq_ok h
      cases h
      rfl
    · cases h
  judge_unmeasurable := by
    intro candidate baseline decision h
    exact StrictPareto.call_unmeasurable_outcome h
  decision_outcome loss promoted := rfl

end HarnessTraining
