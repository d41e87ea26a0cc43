import HarnessTraining.Rollout.Execution
import HarnessTraining.Rollout.Store

/-!
# The determinism audit

`src/plugins/replay/audit.py`: the recorded action chain of every task of a baseline is executed again
in a fresh environment, and a task whose environment answers otherwise than recorded is excluded from
the panel.  A later baseline inherits the certificate of a task whose actions are the same.

What an audit learns from outside is an `AuditWorld`: the chain files, and one environment for each
task, which answers from the actions it has executed.  An exception of an environment, of a deadline
or of a file is an absent answer with its text; it aborts the audit.
-/

set_option autoImplicit false

namespace HarnessTraining

open StateExcept

/-! ## Recorded chains -/

/-- `verdict_summary`: what the audit compares of a verdict. -/
structure VerdictSummary where
  passed : Option Bool
  reward : Number
  deriving DecidableEq

def verdictSummary (result : StepResult) : VerdictSummary where
  passed := result.verdict.bind VerifyVerdict.passed
  reward := result.reward

/-- Equality of the two dictionaries: an integer equals a float of the same value. -/
def VerdictSummary.agrees (summary summary' : VerdictSummary) : Bool :=
  summary.passed = summary'.passed ∧ summary.reward.toRat = summary'.reward.toRat

/-- A row of the chain file of a task. -/
inductive ChainRow where
  | run (action : RunAction) (auditHash : String) (timedOut : Bool)
  | verify (verdict : VerdictSummary) (timedOut : Bool)
  deriving DecidableEq

namespace ChainRow

def action : ChainRow → EnvAction
  | .run action _ _ => .run action
  | .verify _ _ => .verify

def timedOut : ChainRow → Bool
  | .run _ _ timedOut => timedOut
  | .verify _ timedOut => timedOut

end ChainRow

/-- `write_chain`: the row of a step. -/
def chainRow (u : Unicode) (hexdigest : String → String) (step : ChainStep) : ChainRow :=
  match step.envAction with
  | .run action => .run action
      (u.scrubbedHash hexdigest (some action.command) step.stepResult) step.timedOut
  | .verify => .verify (verdictSummary step.stepResult) step.timedOut

/-! ## The environment of an audit -/

/-- A fresh environment.  Its answers depend on the actions it has executed; an error is an exception
of the environment or a deadline that fired. -/
structure AuditEnv where
  /-- The replay scope is applied, and the environment is reset and provisioned. -/
  setup : Except String Unit
  execute : List EnvAction → RunAction → Except String RawEnvOutput
  verify : List EnvAction → Except String VerifyOutcome
  close : Except String Unit

/-- `execute_env_action`. -/
def AuditEnv.reply (env : AuditEnv) (before : List EnvAction) :
    EnvAction → Except String StepResult
  | .run action => StepResult.ofRun <$> env.execute before action
  | .verify => StepResult.ofVerify <$> env.verify before

/-- What differs from the record. -/
structure Mismatch where
  recordedAuditHash : Option String
  live : StepResult
  verdictMismatch : Option (VerdictSummary × VerdictSummary) := none
  deriving DecidableEq

/-- The artifact of a fork. -/
structure Fork where
  task : TaskId
  replayNamespace : Option String
  actionIndex : ℕ
  action : EnvAction
  mismatch : Mismatch
  deriving DecidableEq

structure AuditWorld where
  /-- The chain file of a task of a run; there may be none. -/
  chain : String → TaskId → Except String (Option (List ChainRow))
  loadTasks : List TaskId → Except String Unit
  /-- `namespace_for(handle.content_id)`. -/
  replayNamespace : TaskId → Option String
  makeEnv : TaskId → Except String AuditEnv
  taskDir : String → TaskId → String

/-! ## The audit -/

section Audit

variable (u : Unicode) (hexdigest : String → String)

/-- `_chain_digest`. -/
def chainRowsDigest (rows : List ChainRow) : String :=
  hexdigest (Json.dumpsLines (rows.map fun row ↦ actionPayload row.action))

/-- A chain with a step that was cut short. -/
def hasTimeout (rows : Option (List ChainRow)) : Bool := (rows.getD []).any ChainRow.timedOut

/-- `_load_chain`. -/
def loadChain (world : AuditWorld) (experimentId : String) (task : TaskId) :
    Except String (Option (List ChainRow) × String × Bool) := do
  let rows ← world.chain experimentId task
  return (rows, chainRowsDigest hexdigest (rows.getD []), hasTimeout rows)

/-- `_compare_action`: what differs, if anything does. -/
def compareAction (env : AuditEnv) (before : List EnvAction) (row : ChainRow) :
    Except String (Option Mismatch) := do
  let result ← env.reply before row.action
  let live := u.scrubStepResult row.action.command? result
  match row with
  | .run action auditHash _ =>
    if u.scrubbedHash hexdigest (some action.command) live = auditHash then return none
    return some { recordedAuditHash := some auditHash, live }
  | .verify verdict _ =>
    if (verdictSummary live).agrees verdict then return none
    return some {
      recordedAuditHash := none
      live
      verdictMismatch := some (verdict, verdictSummary live) }

/-- The loop of `_check_task`: the first row that is not reproduced, if there is one. -/
def checkRows (env : AuditEnv) : ℕ → List EnvAction → List ChainRow →
    Except String (Option (ℕ × EnvAction × Mismatch))
  | _, _, [] => return none
  | actionIndex, before, row :: rows => do
    match ← compareAction u hexdigest env before row with
    | some mismatch => return some (actionIndex, row.action, mismatch)
    | none => checkRows env (actionIndex + 1) (before ++ [row.action]) rows

/-- `_check_task`.  The environment is closed whatever happened. -/
def checkTask (world : AuditWorld) (task : TaskId) (rows : List ChainRow) :
    Except String (Option Fork) := do
  let env ← world.makeEnv task
  let checked := env.setup >>= fun _ ↦ checkRows u hexdigest env 1 [] rows
  env.close
  return (← checked).map fun fork ↦
    ⟨task, world.replayNamespace task, fork.1, fork.2.1, fork.2.2⟩

/-- `check_one`: the certificate of a task, and the artifact of its fork. -/
def checkOne (world : AuditWorld) (experimentId : String) (task : TaskId) :
    Except String (TaskCertification × Option Fork) := do
  let (rows, chainDigest, hasTimeout) ← loadChain hexdigest world experimentId task
  match rows, hasTimeout with
  | some rows, false =>
    match ← checkTask u hexdigest world task rows with
    | none => return (⟨chainDigest, .deterministic⟩, none)
    | some fork => return (⟨chainDigest, .forked⟩, some fork)
  -- a timed-out chain is not replayable, even by truncating it
  | _, _ => return (⟨chainDigest, .noChain⟩, none)

/-- `_certify_tasks`, without its hints.  The tasks are checked at the same time; they share nothing
but the log. -/
def certifyTasks (world : AuditWorld) (experimentId : String) (tasks : List TaskId) :
    Except String (List (TaskId × TaskCertification × Option Fork)) := do
  world.loadTasks tasks
  tasks.mapM fun task ↦ do return (task, ← checkOne u hexdigest world experimentId task)

/-- Whether a task takes over the certificate of an earlier baseline. -/
def inheritedCertificate (world : AuditWorld) (experimentId : String)
    (prior : AList fun _ : TaskId ↦ TaskCertification) (task : TaskId) :
    Except String (Option TaskCertification) :=
  match prior.lookup task with
  | none => return none
  | some certificate => do
    let (_, chainDigest, hasTimeout) ← loadChain hexdigest world experimentId task
    return if hasTimeout = false ∧ chainDigest = certificate.chainDigest then some certificate else none

/-- The certificates that may be inherited: those of a certified baseline of the same identity. -/
def inheritable (baseline : ExperimentResult) (inherited : Option ExperimentResult) :
    AList fun _ : TaskId ↦ TaskCertification :=
  match inherited with
  | none => ∅
  | some inherited =>
    if inherited.measurementIdentity.digest hexdigest =
        baseline.measurementIdentity.digest hexdigest then
      inherited.determinismCertification.getD ∅
    else ∅

end Audit

/-! ## The panel -/

def CertificationVerdict.text : CertificationVerdict → String
  | .deterministic => "deterministic"
  | .forked => "forked"
  | .noChain => "no_chain"

def FORK_ARTIFACT_RELPATH : String := "infra/determinism_fork.json"

/-- What an audit leaves behind. -/
structure AuditState where
  store : RunStore
  log : List String := []
  /-- The artifacts that were written, with the run they are about. -/
  forks : List (String × Fork) := []

abbrev AuditM := Prog AuditState String

/-- Pass on what a pure function returns or raises. -/
def ofExcept {α : Type} : Except String α → AuditM α
  | .ok a => return a
  | .error e => throw e

/-- The hint on a fork. -/
def forkHint (task : TaskId) (replayNamespace : String) : String :=
  s!"fork hint: {task} — stale recording? bump: uv run python -m " ++
    s!"src.plugins.replay.bump_epoch '{replayNamespace}'; forks persisting after " ++
    "re-record are real nondeterminism (fix the scrub, not the epoch)"

section Panel

variable (u : Unicode) (hexdigest : String → String) (world : AuditWorld)

/-- The audit of the tasks that inherit nothing; there may be none. -/
def auditTasks (experimentId : String) (tasks : List TaskId) :
    Except String (List (TaskId × TaskCertification × Option Fork)) :=
  if tasks = [] then return [] else certifyTasks u hexdigest world experimentId tasks

/-- The certificates of a baseline, those of inherited tasks first; which tasks inherit; and the forks
that were found. -/
def certificates (baseline : ExperimentResult) (inherited : Option ExperimentResult) :
    Except String (List (TaskId × TaskCertification) × List TaskId × List Fork) := do
  let prior := inheritable hexdigest baseline inherited
  let candidates ← baseline.tasks.keys.mapM fun task ↦ do
    return (task, ← inheritedCertificate hexdigest world baseline.experimentId prior task)
  let taken := candidates.filterMap fun candidate ↦ candidate.2.map (Prod.mk candidate.1)
  let inheritedTasks := taken.map Prod.fst
  let audited ← auditTasks u hexdigest world baseline.experimentId
    (baseline.tasks.keys.filter fun task ↦ task ∉ inheritedTasks)
  return (taken ++ audited.map fun checked ↦ (checked.1, checked.2.1), inheritedTasks,
    audited.filterMap fun checked ↦ checked.2.2)

/-- The certificates as a dictionary. -/
def certificationOf (entries : List (TaskId × TaskCertification)) :
    AList fun _ : TaskId ↦ TaskCertification :=
  (entries.map fun entry ↦ (⟨entry.1, entry.2⟩ : Sigma fun _ ↦ TaskCertification)).toAList

/-- A baseline with its certificates. -/
structure CertifiedBaseline where
  baseline : ExperimentResult
  certification : AList fun _ : TaskId ↦ TaskCertification
  cached : Bool
  inheritedTasks : List TaskId := []

/-- The first half of `exclude_nondeterministic_tasks`: certify a baseline that is not certified yet,
and save it. -/
def certify (baseline : ExperimentResult) (inherited : Option ExperimentResult) :
    AuditM CertifiedBaseline :=
  match baseline.determinismCertification with
  | some certification => return { baseline, certification, cached := true }
  | none => do
    let (entries, inheritedTasks, forks) ← ofExcept (certificates u hexdigest world baseline inherited)
    let certification := certificationOf entries
    let baseline := { baseline with determinismCertification := some certification }
    modify fun state ↦ { state with
      store := state.store.saveExperiment baseline
      forks := state.forks ++ forks.map (Prod.mk baseline.experimentId)
      log := state.log ++ forks.filterMap fun fork ↦ fork.replayNamespace.map (forkHint fork.task) }
    return { baseline, certification, cached := false, inheritedTasks }

/-- The lines of the log about a certified baseline. -/
def panelLog (certified : CertifiedBaseline) : List String :=
  let tasks := certified.baseline.tasks.keys.length
  let excluded := certified.certification.entries.filter fun entry ↦
    entry.2.verdict ≠ .deterministic
  let summary := s!"excluded {excluded.length}/{tasks} nondeterministic tasks"
  let head :=
    if certified.cached then
      s!"determinism: cached ({certified.baseline.experimentId}, {summary})"
    else if certified.inheritedTasks ≠ [] then
      s!"determinism: inherited {certified.inheritedTasks.length}/{tasks} task certificates " ++
        s!"({summary})"
    else s!"determinism: {summary}"
  head :: excluded.map fun entry ↦
    let detail := s!"excluded: {entry.1} ({entry.2.verdict.text})"
    -- an inherited artifact stays under the baseline that computed it
    if entry.2.verdict = .forked ∧ entry.1 ∉ certified.inheritedTasks then
      s!"{detail} {world.taskDir certified.baseline.experimentId entry.1}/{FORK_ARTIFACT_RELPATH}"
    else detail

/-- `task_ids`: the tasks that are not excluded. -/
def CertifiedBaseline.panel (certified : CertifiedBaseline) : List TaskId :=
  certified.baseline.tasks.keys.filter fun task ↦
    (certified.certification.lookup task).all fun certificate ↦
      certificate.verdict = .deterministic

/-- `exclude_nondeterministic_tasks`. -/
def excludeNondeterministicTasks (baseline : ExperimentResult)
    (inherited : Option ExperimentResult) : AuditM (ExperimentResult × List TaskId) := do
  let certified ← certify u hexdigest world baseline inherited
  modify fun state ↦ { state with log := state.log ++ panelLog world certified }
  if certified.panel = [] then
    throw "RuntimeError: determinism check excluded every task"
  return (certified.baseline, certified.panel)

end Panel

end HarnessTraining
