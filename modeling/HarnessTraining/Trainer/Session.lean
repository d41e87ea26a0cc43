import HarnessTraining.Library.StateExcept
import HarnessTraining.Rollout.Store
import HarnessTraining.Trainer.Optim

/-!
# A training session

`Trainer._epochs`, `_epoch` and `_conclude` of `src/trainer/trainer.py`, as a machine.  The generator
yields a loss and suspends; the user's loop then calls `backward` on losses it holds and `step` on
the optimizer, in any order and as often as it likes, and either resumes the generator, which
concludes the epoch, or abandons it.  Each of these is an `Action`, and `Session.next` is what the
program does on it.

What the program learns from outside during an epoch is an `EpochScript`: the runs the measurements
return, the work tree the estimator leaves, the verdict of the test suite.  An exception that code
outside the trainer raises is an absent answer.
-/

set_option autoImplicit false

namespace HarnessTraining

open StateExcept

/-- One measurement of the candidate: a run, or a `MeasurementError` with the run it left, if any. -/
inductive Attempt where
  | measured (candidate : ExperimentResult)
  | measurementError (result : Option ExperimentResult)

namespace Attempt

/-- The run an attempt left on disk. -/
def run? : Attempt → Option ExperimentResult
  | .measured candidate => some candidate
  | .measurementError result => result

end Attempt

/-- The answers of the outside world during one epoch. -/
structure EpochScript where
  identity : Option MeasurementIdentity
  /-- The measured baseline, asked for only when the store has none. -/
  baselineRun : Option ExperimentResult
  /-- `Execution.certify`: the baseline with its certificates, and the panel. -/
  certify : ExperimentResult → Option (ExperimentResult × List TaskId)
  /-- The work tree the estimator leaves. -/
  worktree : Option Tree
  /-- The name git gives the captured commit. -/
  commit : Sha
  /-- What `run_candidate_suite` raises. -/
  suite : Option CandidateValidationError
  first : Attempt
  second : Attempt

/-- A suspended epoch: what the generator holds across its `yield`. -/
structure Window where
  baselineCommit : Sha
  baseline : ExperimentResult
  candidateRef : Candidate
  candidate : ExperimentResult

inductive Phase where
  /-- Between two epochs. -/
  | ready
  | suspended (window : Window)
  /-- The generator returned, raised or was closed. -/
  | finished (result : Except TrainerError Unit)

structure Session where
  harness : Parameter
  store : RunStore
  phase : Phase := .ready
  /-- Epochs left of `max_epochs`. -/
  remaining : ℕ
  /-- The losses yielded so far, which the user's loop may hold. -/
  yielded : List Loss := []
  /-- First attempts that a second measurement superseded: artifacts on disk, and nothing else. -/
  artifactOnly : List ExperimentResult := []
  decisions : List ResultDecision := []
  finalBaseline : Option ExperimentResult := none
  certifiedBaseline : Option ExperimentResult := none
  consecutiveSkipCauses : List String := []

structure Trainer where
  git : RenameDetection
  trainingTarget : TrainingTargetConfig
  criterion : Criterion
  optimizer : Optimizer
  hexdigest : String → String

abbrev TrainerM := Prog Session TrainerError

/-- An answer, or the exception that stands in its place. -/
def orRaise {α : Type} (answer : Option α) (message : String) : TrainerM α :=
  match answer with
  | some a => return a
  | none => throw (.foreign message)

/-- Pass on what a pure function returns or raises. -/
def liftExcept {α : Type} : Except TrainerError α → TrainerM α
  | .ok a => return a
  | .error e => throw e

def maxConsecutiveSkips : ℕ := 2

def CandidateCause.name : CandidateCause → String
  | .noCandidate => "no_candidate"
  | .invalidCandidate => "invalid_candidate"

namespace Trainer

variable (trainer : Trainer)

/-- `self._tracker.record_finalized_run`. -/
def record (result : ExperimentResult) (kind : RunKind) (parentCommitHash : Option Sha)
    (baselineExperimentId : Option String) (decision : Option ResultDecision) :
    TrainerM ExperimentResult := do
  let session ← get
  match session.store.recordFinalizedRun trainer.hexdigest result kind parentCommitHash
      baselineExperimentId decision with
  | .error message => throw (.foreign message)
  | .ok (store, updated) =>
    set { session with store := store }
    return updated

/-- `_measure_baseline`. -/
def measureBaseline (script : EpochScript) : TrainerM ExperimentResult := do
  let measured ← orRaise script.baselineRun "run_isolated_experiment"
  trainer.record measured .baseline none none none

/-- The baseline run of the commit under the current identity: the last one recorded, or a new
measurement. -/
def findBaseline (baselineCommit : Sha) (script : EpochScript) : TrainerM ExperimentResult := do
  let identity ← orRaise script.identity "resolve_measurement_identity"
  let session ← get
  match session.store.latestCompletedBaseline baselineCommit
      (identity.digest trainer.hexdigest) with
  | .error message => throw (.foreign message)
  | .ok (some baseline) => return baseline
  | .ok none => trainer.measureBaseline script

/-- The first half of an epoch of `_epochs`: find or measure the baseline, and certify it. -/
def prepareBaseline (baselineCommit : Sha) (script : EpochScript) : TrainerM ExperimentResult := do
  let baseline ← trainer.findBaseline baselineCommit script
  let (baseline, _) ← orRaise (script.certify baseline) "certify"
  modify fun session ↦
    { session with certifiedBaseline := some baseline, finalBaseline := some baseline }
  return baseline

/-- Propose, capture, validate, and run the suite. -/
def propose (baselineCommit : Sha) (script : EpochScript) : TrainerM Candidate := do
  let worktree ← orRaise script.worktree "estimator.propose"
  let session ← get
  let (repo, candidateRef) ←
    liftExcept (captureCandidate trainer.git session.harness.repo baselineCommit worktree
      script.commit)
  set { session with harness := { session.harness with repo := repo } }
  liftExcept (validateCandidate trainer.git repo candidateRef trainer.trainingTarget)
  match script.suite with
  | some error => throw (.candidateValidation error)
  | none => return candidateRef

/-- What one measurement of the candidate comes to. -/
inductive Judgement where
  | judged (candidate : ExperimentResult) (loss : Loss)
  | failed (run : Option ExperimentResult) (decision : Option ResultDecision)

/-- One attempt: measure, check the commit, judge. -/
def judgeAttempt (baseline : ExperimentResult) (candidateRef : Candidate) (attempt : Attempt) :
    Except TrainerError Judgement :=
  match attempt with
  | .measurementError result => return .failed result none
  | .measured candidate =>
    if candidate.gitCommitHash ≠ candidateRef.commit then
      throw (.runtimeError <|
        "measured candidate commit does not match the validated candidate: " ++
          s!"{candidate.gitCommitHash} != {candidateRef.commit}")
    else
      match trainer.criterion.judge candidate baseline with
      | .ok loss => return .judged candidate loss
      | .error (.unmeasurableRun decision) => return .failed (some candidate) (some decision)
      | .error (.valueError message) => throw (.foreign message)

/-- The funnel: re-measure once; the superseded first attempt stays artifact-only. -/
def measureCandidate (baseline : ExperimentResult) (candidateRef : Candidate)
    (script : EpochScript) : TrainerM Judgement := do
  match ← liftExcept (trainer.judgeAttempt baseline candidateRef script.first) with
  | .judged candidate loss => return .judged candidate loss
  | .failed _ _ =>
    modify fun session ↦
      { session with artifactOnly := session.artifactOnly ++ script.first.run?.toList }
    liftExcept (trainer.judgeAttempt baseline candidateRef script.second)

/-- How far an epoch gets before the user's loop has to act. -/
inductive Turn where
  | skipped (cause : String) (finalized : Option ExperimentResult)
  | yielded (window : Window) (loss : Loss)

/-- `_epoch` from the capture on. -/
def judgeCandidate (baselineCommit : Sha) (baseline : ExperimentResult) (candidateRef : Candidate)
    (script : EpochScript) : TrainerM Turn := do
  if candidateRef.baseCommit ≠ baselineCommit then
    throw (.runtimeError <| "candidate baseline does not match the epoch baseline: " ++
      s!"{candidateRef.baseCommit} != {baselineCommit}")
  match ← trainer.measureCandidate baseline candidateRef script with
  | .judged candidate loss =>
    -- zeroed before the window opens, so that an abandoned epoch keeps no stale verdict
    modify fun session ↦ { session with
      harness := { session.harness with grad := none, applied := none }
      yielded := session.yielded ++ [loss] }
    return .yielded ⟨baselineCommit, baseline, candidateRef, candidate⟩ loss
  | .failed none _ => return .skipped "measurement_failure" none
  | .failed (some failedRun) decision => do
    let failedRun ← trainer.record failedRun .candidate (some baselineCommit)
      (some baseline.experimentId) decision
    return .skipped "measurement_failure" (some failedRun)

/-- `_epoch`, up to its `yield`. -/
def epoch (baselineCommit : Sha) (baseline : ExperimentResult) (script : EpochScript) :
    TrainerM Turn := do
  let proposed ← tryCatch (Except.ok <$> trainer.propose baselineCommit script) fun error ↦
    match error with
    | .candidateValidation error => return Except.error error
    | error => throw error
  match proposed with
  | .error error => return .skipped error.cause.name none
  | .ok candidateRef => trainer.judgeCandidate baselineCommit baseline candidateRef script

/-- `_conclude`. -/
def conclude (window : Window) (diagnoseRaises : Bool) : TrainerM ExperimentResult := do
  let session ← get
  match session.harness.grad with
  | none => throw (.runtimeError <|
      "epoch not trained: loss.backward() never ran — the loop body " ++
        "must call loss.backward(), optimizer.step() each epoch")
  | some loss =>
    if loss.candidate.gitCommitHash ≠ window.candidateRef.commit then
      throw (.runtimeError <| "recorded verdict does not match this epoch's candidate: " ++
        s!"{loss.candidate.gitCommitHash} != {window.candidateRef.commit}")
    if session.harness.applied = none then
      throw (.runtimeError <| "epoch not applied: optimizer.step() never ran — call it after " ++
        "loss.backward()")
    if window.candidate.gitCommitHash ≠ window.candidateRef.commit then
      throw (.runtimeError <| "measured candidate commit does not match the validated candidate: " ++
        s!"{window.candidate.gitCommitHash} != {window.candidateRef.commit}")
    let promoted ← liftExcept (loss.promoted session.harness)
    let decision := trainer.criterion.decision loss promoted
    let kind : RunKind := if decision.outcome = .promoted then .baseline else .candidate
    let candidate ← trainer.record window.candidate kind (some window.candidateRef.baseCommit)
      (some window.baseline.experimentId) (some decision)
    -- the `finally` around the diagnosis
    modify fun session ↦
      { session with harness := { session.harness with grad := none, applied := none } }
    if diagnoseRaises then throw (.foreign "estimator.diagnose")
    return candidate

/-- The bookkeeping of `_epochs` after an epoch. -/
def finishEpoch (skipCause : Option String) (finalized : Option ExperimentResult) :
    TrainerM Unit := do
  modify fun session ↦ { session with
    phase := .ready
    remaining := session.remaining - 1
    decisions := session.decisions ++ (finalized.bind ExperimentResult.decision).toList
    finalBaseline :=
      match finalized with
      | some run => if run.kind = some .baseline then some run else session.finalBaseline
      | none => session.finalBaseline
    consecutiveSkipCauses :=
      match skipCause with
      | none => []
      | some cause => session.consecutiveSkipCauses ++ [cause] }
  let session ← get
  if maxConsecutiveSkips ≤ session.consecutiveSkipCauses.length then
    throw (.circuitBreakerTripped <| "consecutive epoch skip breaker tripped: " ++
      ", ".intercalate session.consecutiveSkipCauses)

/-- One epoch of `_epochs`, up to its `yield` or its end. -/
def startEpoch (script : EpochScript) : TrainerM Unit := do
  let session ← get
  let baselineCommit := session.harness.head
  let baseline ← trainer.prepareBaseline baselineCommit script
  match ← trainer.epoch baselineCommit baseline script with
  | .skipped cause finalized => finishEpoch (some cause) finalized
  | .yielded window _ => modify fun session ↦ { session with phase := .suspended window }

/-- The rest of an epoch, after the user's loop resumed the generator. -/
def resumeEpoch (window : Window) (diagnoseRaises : Bool) : TrainerM Unit := do
  let candidate ← trainer.conclude window diagnoseRaises
  finishEpoch none (some candidate)

end Trainer

/-! ## The machine -/

inductive Action where
  /-- The generator runs into the next epoch, or finds that none is left. -/
  | epoch (script : EpochScript)
  /-- `loss.backward()` on the loss yielded at this index. -/
  | backward (index : ℕ)
  /-- `optimizer.step()`; git may refuse to touch the work tree. -/
  | step (allowed : Bool)
  | resume (diagnoseRaises : Bool)
  | abandon

namespace Session

/-- Run a stretch of the generator; an exception ends it. -/
def advance (program : TrainerM Unit) (session : Session) : Session :=
  match exec program session with
  | (.ok _, session) => session
  | (.error error, session) => { session with phase := .finished (.error error) }

/-- A user's call that raised changed nothing. -/
def userCall (session : Session) (call : Except TrainerError Parameter) : Session :=
  match call with
  | .ok harness => { session with harness := harness }
  | .error _ => session

/-- What the program does on an action.  An action that the phase does not offer does nothing. -/
def next (trainer : Trainer) (session : Session) (action : Action) : Session :=
  match session.phase, action with
  | .ready, .epoch script =>
    if session.remaining = 0 then { session with phase := .finished (.ok ()) }
    else session.advance (trainer.startEpoch script)
  | .suspended _, .backward index =>
    match session.yielded[index]? with
    | some loss => session.userCall (loss.backward session.harness)
    | none => session
  | .suspended _, .step allowed => session.userCall (trainer.optimizer.step session.harness allowed)
  | .suspended window, .resume diagnoseRaises =>
    session.advance (trainer.resumeEpoch window diagnoseRaises)
  | .suspended _, .abandon => { session with phase := .finished (.ok ()) }
  | _, _ => session

/-- The session after a sequence of actions. -/
def run (trainer : Trainer) (session : Session) (actions : List Action) : Session :=
  actions.foldl (next trainer) session

end Session

end HarnessTraining
