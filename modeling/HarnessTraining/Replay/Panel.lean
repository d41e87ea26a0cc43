import HarnessTraining.Library.Transitions
import HarnessTraining.Replay.Inheritance
import HarnessTraining.Trainer.Outcome

/-!
# The panel of every epoch

A training session under `ReplayExecution`: `_epochs` certifies the baseline of each epoch with
`exclude_nondeterministic_tasks`, which excludes the tasks whose certificate is not deterministic.  A
baseline may be fresh from a measurement, promoted, or certified already; and its tasks may inherit
from the baseline of the epoch before.

* `ReplaySession.next` — the session machine, with the audit in place of its answer, over all sessions
  on one store.
* `Certified` — what the certificates of a saved run are: each task has one, from an audit.
* `panel_exact` — what the panels are, in every run of the machine.
-/

set_option autoImplicit false

namespace HarnessTraining

open StateExcept

/-! ## The machine -/

/-- A call of `exclude_nondeterministic_tasks`, with what it returned or raised and the store it left. -/
structure CertifyCall where
  world : AuditWorld
  baseline : ExperimentResult
  inherited : Option ExperimentResult
  answer : Except String (ExperimentResult × List TaskId)
  store : RunStore

/-- A session, and the calls on its store so far. -/
structure ReplaySession where
  session : Session
  calls : List CertifyCall := []

abbrev ReplayM := Prog ReplaySession TrainerError

/-- A stretch of the trainer that certifies nothing. -/
def within {α : Type} (program : TrainerM α) : ReplayM α := do
  let s ← get
  let (answer, session) := exec program s.session
  set { s with session }
  match answer with
  | .ok a => return a
  | .error error => throw error

namespace Trainer

variable (trainer : Trainer) (u : Unicode)

/-- `execution.certify`, with the certified baseline of the epoch before. -/
def certify (world : AuditWorld) (baseline : ExperimentResult) :
    ReplayM (ExperimentResult × List TaskId) := do
  let s ← get
  let inherited := s.session.certifiedBaseline
  let (answer, audit) :=
    exec (excludeNondeterministicTasks u trainer.hexdigest world baseline inherited)
      { store := s.session.store }
  set ({
    session := { s.session with store := audit.store }
    calls := s.calls ++ [⟨world, baseline, inherited, answer, audit.store⟩] } : ReplaySession)
  match answer with
  | .ok certified => return certified
  | .error text => throw (.foreign text)

/-- An epoch from the certified baseline on. -/
def afterCertify (baselineCommit : Sha) (baseline : ExperimentResult) (script : EpochScript) :
    TrainerM Unit := do
  modify fun session ↦
    { session with certifiedBaseline := some baseline, finalBaseline := some baseline }
  match ← trainer.epoch baselineCommit baseline script with
  | .skipped cause finalized => finishEpoch (some cause) finalized
  | .yielded window _ => modify fun session ↦ { session with phase := .suspended window }

/-- `startEpoch`, with the audit. -/
def startReplayEpoch (script : EpochScript) (world : AuditWorld) : ReplayM Unit := do
  let s ← get
  let baselineCommit := s.session.harness.head
  let baseline ← within (trainer.findBaseline baselineCommit script)
  let (baseline, _) ← trainer.certify u world baseline
  within (trainer.afterCertify baselineCommit baseline script)

end Trainer

/-- What the user's loop does while an epoch is suspended. -/
inductive UserAction where
  | backward (index : ℕ)
  | step (allowed : Bool)
  | resume (diagnoseRaises : Bool)
  | abandon

def UserAction.action : UserAction → Action
  | .backward index => .backward index
  | .step allowed => .step allowed
  | .resume diagnoseRaises => .resume diagnoseRaises
  | .abandon => .abandon

inductive ReplayAction where
  | epoch (script : EpochScript) (world : AuditWorld)
  | user (action : UserAction)
  /-- A measurement saves its run. -/
  | saves (run : ExperimentResult)
  /-- Another trainer on the same store. -/
  | restart (harness : Parameter) (maxEpochs : ℕ)

namespace ReplaySession

variable (trainer : Trainer) (u : Unicode)

/-- Run a stretch of the generator; an exception ends it. -/
def advance (program : ReplayM Unit) (s : ReplaySession) : ReplaySession :=
  match exec program s with
  | (.ok _, s) => s
  | (.error error, s) => { s with session := { s.session with phase := .finished (.error error) } }

def next (s : ReplaySession) : ReplayAction → ReplaySession
  | .epoch script world =>
    match s.session.phase with
    | .ready =>
      if s.session.remaining = 0 then
        { s with session := { s.session with phase := .finished (.ok ()) } }
      else s.advance (trainer.startReplayEpoch u script world)
    | _ => s
  | .user action => { s with session := s.session.next trainer action.action }
  | .saves run => { s with session := { s.session with store := s.session.store.saveExperiment run } }
  | .restart harness maxEpochs =>
    { s with session := { harness, store := s.session.store, remaining := maxEpochs } }

def run (s : ReplaySession) (actions : List ReplayAction) : ReplaySession :=
  actions.foldl (next trainer u) s

/-- The first session on a store. -/
def start (harness : Parameter) (maxEpochs : ℕ) : ReplaySession where
  session := { harness, store := {}, remaining := maxEpochs }

end ReplaySession

/-! ## Runs without certificates -/

/-- A run as a measurement leaves it: nothing in it is certified. -/
def ExperimentResult.Uncertified (run : ExperimentResult) : Prop := run.determinismCertification = none

/-- The runs that an epoch measures are uncertified. -/
structure EpochScript.Uncertified (script : EpochScript) : Prop where
  baselineRun : ∀ run ∈ script.baselineRun, run.Uncertified
  first : ∀ run ∈ script.first.run?, run.Uncertified
  second : ∀ run ∈ script.second.run?, run.Uncertified

def ReplayAction.Uncertified : ReplayAction → Prop
  | .epoch script _ => script.Uncertified
  | .saves run => run.Uncertified
  | _ => True

/-- Only uncertified runs are saved, no baseline is certified, and no epoch is suspended. -/
structure Saves (s s' : Session) : Prop where
  files : ∀ runId record, s'.store.files.lookup runId = some record →
    s.store.files.lookup runId = some record ∨ record.experimentId = runId ∧ record.Uncertified
  certifiedBaseline : s'.certifiedBaseline = s.certifiedBaseline
  window : ∀ window, s'.phase = .suspended window → s.phase = .suspended window

theorem Saves.of_store_eq {s s' : Session} (hstore : s'.store = s.store)
    (hcertified : s'.certifiedBaseline = s.certifiedBaseline) (hphase : s'.phase = s.phase) : Saves s s' :=
  ⟨fun _ _ hlookup ↦ .inl (hstore ▸ hlookup), hcertified, fun _ hwindow ↦ hphase ▸ hwindow⟩

theorem Saves.refl (s : Session) : Saves s s := .of_store_eq rfl rfl rfl

theorem Saves.trans {a b c : Session} (h : Saves a b) (h' : Saves b c) : Saves a c := by
  refine ⟨fun runId record hlookup ↦ ?_, h'.certifiedBaseline.trans h.certifiedBaseline,
    fun window hwindow ↦ h.window window (h'.window window hwindow)⟩
  rcases h'.files runId record hlookup with hlookup | hnew
  · exact h.files runId record hlookup
  · exact .inr hnew

theorem Saves.save {s : Session} {run : ExperimentResult} (hrun : run.Uncertified)
    (index : List RunIndexRow) :
    Saves s { s with store := { s.store.saveExperiment run with index } } := by
  refine ⟨fun runId record hlookup ↦ ?_, rfl, fun _ hwindow ↦ hwindow⟩
  by_cases hid : runId = run.experimentId
  · subst hid
    obtain rfl := Option.some.inj ((AList.lookup_insert _).symm.trans hlookup)
    exact .inr ⟨rfl, hrun⟩
  · exact .inl ((AList.lookup_insert_ne hid).symm.trans hlookup)

namespace Trainer

variable {trainer : Trainer} {s : Session} {script : EpochScript}

/-- Recording a run saves it. -/
theorem record_saves {result : ExperimentResult} (hresult : result.Uncertified) (kind : RunKind)
    (parent : Option Sha) (baselineId : Option String) (decision : Option ResultDecision) :
    wp (trainer.record result kind parent baselineId decision)
      (fun updated s' ↦ Saves s s' ∧ s'.store.files.lookup updated.experimentId = some updated)
      (fun _ s' ↦ Saves s s') s := by
  rw [record, wp_bind, wp_get]
  split
  · exact .refl s
  · next store updated hrecord =>
    obtain ⟨row, -, hrecord⟩ := bind_eq_ok hrecord
    cases hrecord
    have hupdated : (RunStore.withRelations result kind parent baselineId decision).Uncertified := hresult
    exact ⟨.save hupdated _, AList.lookup_insert _⟩

/-- A baseline that is found is saved under its own name, if every run is. -/
theorem findBaseline_saves {baselineCommit : Sha} (hscript : script.Uncertified)
    (hnamed : ∀ runId record, s.store.files.lookup runId = some record → record.experimentId = runId) :
    wp (trainer.findBaseline baselineCommit script)
      (fun baseline s' ↦ Saves s s' ∧ s'.store.files.lookup baseline.experimentId = some baseline)
      (fun _ s' ↦ Saves s s') s := by
  simp only [findBaseline, wp_bind, wp_orRaise, wp_get]
  refine ⟨fun identity _ ↦ ?_, fun _ ↦ .refl s⟩
  split
  · exact .refl s
  · next baseline hlatest =>
    rw [RunStore.latestCompletedBaseline] at hlatest
    split at hlatest
    · cases hlatest
    · next row _ =>
      obtain ⟨record, hload, hsome⟩ := bind_eq_ok hlatest
      cases hsome
      rw [RunStore.loadExperiment] at hload
      split at hload
      · cases hload
      · next result hlookup =>
        obtain ⟨-, -, hload⟩ := bind_eq_ok hload
        cases hload
        exact ⟨.refl s, by rwa [hnamed _ _ hlookup]⟩
  · simp only [measureBaseline, wp_bind, wp_orRaise]
    exact ⟨fun measured hmeasured ↦ record_saves (hscript.baselineRun measured hmeasured) _ _ _ _,
      fun _ ↦ .refl s⟩

theorem propose_saves (baselineCommit : Sha) : Preserves Saves (trainer.propose baselineCommit script) := by
  intro s
  simp only [propose, wp_bind, wp_orRaise, wp_get, wp_liftExcept, wp_set]
  refine ⟨fun worktree _ ↦ ⟨?_, fun _ _ ↦ .refl s⟩, fun _ ↦ .refl s⟩
  rintro ⟨repo, candidateRef⟩ -
  have hset : Saves s { s with harness := { s.harness with repo := repo } } := .of_store_eq rfl rfl rfl
  refine ⟨fun _ _ ↦ ?_, fun _ _ ↦ hset⟩
  split
  · exact hset
  · exact hset

/-- What an epoch measures is uncertified. -/
theorem judgeCandidate_saves (hscript : script.Uncertified) (baselineCommit : Sha)
    (baseline : ExperimentResult) (candidateRef : Candidate) :
    wp (trainer.judgeCandidate baselineCommit baseline candidateRef script)
      (fun turn s' ↦ Saves s s' ∧
        ∀ window loss, turn = .yielded window loss → window.candidate.Uncertified)
      (fun _ s' ↦ Saves s s') s := by
  simp only [judgeCandidate, wp_bind, wp_ite, wp_throw]
  refine ⟨fun _ ↦ .refl s, fun _ ↦ ?_⟩
  have hsaves {s₁ : Session} {kept : Attempt} (hmeasured : Measured script s s₁ kept) : Saves s s₁ := by
    rcases hmeasured with ⟨rfl, -⟩ | ⟨rfl, -⟩ <;> exact .of_store_eq rfl rfl rfl
  refine wp_mono measureCandidate_spec ?_ ?_
  · rintro judgement s₁ ⟨kept, hmeasured, hjudge, -⟩
    have hkept : ∀ run ∈ kept.run?, run.Uncertified := by
      rcases hmeasured with ⟨-, rfl⟩ | ⟨-, rfl⟩
      · exact hscript.first
      · exact hscript.second
    obtain ⟨candidate, loss, rfl, hrun, -⟩ | ⟨run, decision, rfl, hrun, -⟩ :=
      judgeAttempt_cases hjudge
    · simp only [wp_bind, wp_modify, wp_pure]
      refine ⟨(hsaves hmeasured).trans (.of_store_eq rfl rfl rfl), fun window loss' hturn ↦ ?_⟩
      cases hturn
      exact hkept candidate hrun
    · cases run with
      | none => exact ⟨hsaves hmeasured, by rintro _ _ ⟨⟩⟩
      | some failedRun =>
        simp only [wp_bind, wp_pure]
        refine wp_mono (record_saves (hkept failedRun hrun) _ _ _ _) ?_
          fun _ _ h ↦ (hsaves hmeasured).trans h
        rintro _ s₂ ⟨h, -⟩
        exact ⟨(hsaves hmeasured).trans h, by rintro _ _ ⟨⟩⟩
  · rintro _ s₁ ⟨kept, hmeasured⟩
    exact hsaves hmeasured

theorem epoch_saves (hscript : script.Uncertified) (baselineCommit : Sha) (baseline : ExperimentResult) :
    wp (trainer.epoch baselineCommit baseline script)
      (fun turn s' ↦ Saves s s' ∧
        ∀ window loss, turn = .yielded window loss → window.candidate.Uncertified)
      (fun _ s' ↦ Saves s s') s := by
  simp only [epoch, wp_bind, wp_tryCatch, wp_map]
  refine wp_mono (propose_saves baselineCommit s) (fun candidateRef s₁ h ↦ ?_) fun error s₁ h ↦ ?_
  · refine wp_mono (judgeCandidate_saves hscript baselineCommit baseline candidateRef) ?_
      fun _ _ h' ↦ h.trans h'
    rintro turn s₂ ⟨h', hturn⟩
    exact ⟨h.trans h', hturn⟩
  · cases error with
    | candidateValidation error => exact ⟨h, by rintro _ _ ⟨⟩⟩
    | _ => exact h

theorem finishEpoch_saves (skipCause : Option String) (finalized : Option ExperimentResult) :
    Preserves Saves (finishEpoch skipCause finalized) := by
  intro s
  have hsaves {s' : Session} (hstore : s'.store = s.store)
      (hcertified : s'.certifiedBaseline = s.certifiedBaseline) (hphase : s'.phase = .ready) :
      Saves s s' := by
    refine ⟨fun _ _ hlookup ↦ .inl (hstore ▸ hlookup), hcertified, fun window hwindow ↦ ?_⟩
    cases hphase.symm.trans hwindow
  simp only [finishEpoch, wp_bind, wp_modify, wp_get, wp_ite, wp_throw, wp_pure]
  exact ⟨fun _ ↦ hsaves rfl rfl rfl, fun _ ↦ hsaves rfl rfl rfl⟩

theorem conclude_saves {window : Window} (hwindow : window.candidate.Uncertified) (diagnoseRaises : Bool) :
    Preserves Saves (trainer.conclude window diagnoseRaises) := by
  intro s
  simp only [conclude, wp_bind, wp_get]
  split
  · exact .refl s
  · simp only [wp_bind, wp_ite, wp_throw, wp_pure, wp_liftExcept, wp_modify]
    refine ⟨fun _ ↦ .refl s, fun _ ↦ ⟨fun _ ↦ .refl s, fun _ ↦ ⟨fun _ ↦ .refl s, fun _ ↦
      ⟨fun promoted _ ↦ ?_, fun _ _ ↦ .refl s⟩⟩⟩⟩
    refine wp_mono (record_saves hwindow _ _ _ _) ?_ fun _ _ h ↦ h
    rintro _ s₁ ⟨h, -⟩
    have hclosed : Saves s { s₁ with harness := { s₁.harness with grad := none, applied := none } } :=
      h.trans (.of_store_eq rfl rfl rfl)
    exact ⟨fun _ ↦ hclosed, fun _ ↦ hclosed⟩

end Trainer

/-! ## Certificates from audits -/

section Certificates

variable (u : Unicode) (hexdigest : String → String)

/-- The certificate of a task is what the audit of a call found. -/
structure CertifyCall.Audits (call : CertifyCall) (task : TaskId) (certificate : TaskCertification) :
    Prop where
  uncertified : call.baseline.Uncertified
  mem : task ∈ call.baseline.tasks
  notInherited : inheritedCertificate hexdigest call.world call.baseline.experimentId
    (inheritable hexdigest call.baseline call.inherited) task = .ok none
  checked : ∃ fork, checkOne u hexdigest call.world call.baseline.experimentId task =
    .ok (certificate, fork)

/-- Every task has a certificate, and none else; each comes from the audit of a call. -/
structure Certified (calls : List CertifyCall) (record : ExperimentResult)
    (certification : AList fun _ : TaskId ↦ TaskCertification) : Prop where
  covers : ∀ task, task ∈ certification ↔ task ∈ record.tasks
  audited : ∀ task certificate, certification.lookup task = some certificate →
    ∃ call ∈ calls, call.Audits u hexdigest task certificate

/-- If the run is certified at all. -/
def SoundRecord (calls : List CertifyCall) (record : ExperimentResult) : Prop :=
  ∀ certification, record.determinismCertification = some certification →
    Certified u hexdigest calls record certification

variable {u hexdigest} {calls calls' : List CertifyCall} {record : ExperimentResult}

theorem SoundRecord.mono (h : SoundRecord u hexdigest calls record) (hsub : calls ⊆ calls') :
    SoundRecord u hexdigest calls' record := by
  intro certification hcertification
  refine ⟨(h certification hcertification).covers, fun task certificate hlookup ↦ ?_⟩
  obtain ⟨call, hcall, haudits⟩ := (h certification hcertification).audited task certificate hlookup
  exact ⟨call, hsub hcall, haudits⟩

theorem ExperimentResult.Uncertified.sound (h : record.Uncertified) :
    SoundRecord u hexdigest calls record := by
  intro certification hcertification
  cases h.symm.trans hcertification

/-- Where the certificate of a task comes from. -/
theorem certificateOf_ok {world : AuditWorld} {experimentId : String} {task : TaskId}
    {prior : AList fun _ : TaskId ↦ TaskCertification} {certificate : TaskCertification}
    (h : certificateOf u hexdigest world experimentId prior task = .ok certificate) :
    prior.lookup task = some certificate ∨
      inheritedCertificate hexdigest world experimentId prior task = .ok none ∧
        ∃ fork, checkOne u hexdigest world experimentId task = .ok (certificate, fork) := by
  obtain ⟨answer, hinherited, h⟩ := bind_eq_ok h
  cases answer with
  | none =>
    obtain ⟨⟨_, fork⟩, hchecked, heq⟩ := bind_eq_ok h
    cases heq
    exact .inr ⟨hinherited, fork, hchecked⟩
  | some certificate' =>
    cases h
    refine .inl ?_
    rw [inheritedCertificate] at hinherited
    split at hinherited
    · cases hinherited
    · next certificate' hlookup =>
      obtain ⟨_, -, hinherited⟩ := bind_eq_ok hinherited
      have hanswer := Except.ok.inj hinherited
      split at hanswer
      · cases hanswer
        exact hlookup
      · cases hanswer

theorem inheritable_lookup {baseline : ExperimentResult} {inherited : Option ExperimentResult}
    {task : TaskId} {certificate : TaskCertification}
    (h : (inheritable hexdigest baseline inherited).lookup task = some certificate) :
    ∃ prior certification, inherited = some prior ∧
      prior.determinismCertification = some certification ∧
        certification.lookup task = some certificate := by
  rw [inheritable.eq_def] at h
  split at h
  · cases h
  · next prior =>
    split at h
    · cases hcertification : prior.determinismCertification with
      | none =>
        rw [hcertification] at h
        cases h
      | some certification =>
        rw [hcertification] at h
        exact ⟨prior, certification, rfl, hcertification, h⟩
    · cases h

/-- The certificates of a call come from its audit, or from an earlier one. -/
theorem Certifies.certified {world : AuditWorld} {baseline : ExperimentResult}
    {inherited : Option ExperimentResult} {certification : AList fun _ : TaskId ↦ TaskCertification}
    {call : CertifyCall}
    (h : Certifies u hexdigest world baseline inherited certification)
    (hworld : call.world = world) (hbaseline : call.baseline = baseline)
    (hinherited : call.inherited = inherited) (hfresh : baseline.Uncertified)
    (hprior : ∀ prior, inherited = some prior → SoundRecord u hexdigest calls prior) :
    Certified u hexdigest (calls ++ [call]) baseline certification := by
  subst hworld hbaseline hinherited
  refine ⟨h.mem, fun task certificate hlookup ↦ ?_⟩
  rcases certificateOf_ok (h.lookup task certificate hlookup) with hprior' | ⟨hnone, hchecked⟩
  · obtain ⟨prior, certification', hsome, hcertification, hlookup'⟩ := inheritable_lookup hprior'
    obtain ⟨audit, haudit, haudits⟩ :=
      (hprior prior hsome certification' hcertification).audited task certificate hlookup'
    exact ⟨audit, List.mem_append_left _ haudit, haudits⟩
  · have htask : task ∈ call.baseline.tasks :=
      (h.mem task).mp (AList.lookup_isSome.mp (Option.isSome_of_mem hlookup))
    exact ⟨call, List.mem_append_right _ List.mem_cons_self, hfresh, htask, hnone, hchecked⟩

/-- An audit finds only chains that were recorded to their end deterministic. -/
theorem CertifyCall.Audits.complete {call : CertifyCall} {task : TaskId} {certificate : TaskCertification}
    (h : call.Audits u hexdigest task certificate) (hverdict : certificate.verdict = .deterministic) :
    ∃ rows, call.world.chain call.baseline.experimentId task = .ok rows ∧ Complete rows := by
  obtain ⟨fork, hchecked⟩ := h.checked
  obtain ⟨⟨rows, digest, timeout⟩, hload, hchecked⟩ := bind_eq_ok hchecked
  obtain ⟨rows', hchain, hload⟩ := bind_eq_ok hload
  cases hload
  refine ⟨rows, hchain, ?_⟩
  dsimp only at hchecked
  split at hchecked
  · next rows' htimeout => exact ⟨rfl, htimeout⟩
  · cases hchecked
    cases hverdict

/-- What a call that returned is: its panel and the certificates that it leaves on disk. -/
structure CertifyCall.Exact (u : Unicode) (hexdigest : String → String) (calls : List CertifyCall)
    (call : CertifyCall) (certified : ExperimentResult)
    (certification : AList fun _ : TaskId ↦ TaskCertification) (panel : List TaskId) : Prop where
  same : certified = { call.baseline with determinismCertification := some certification }
  persisted : call.store.files.lookup call.baseline.experimentId = some certified
  covers : ∀ task, task ∈ certification ↔ task ∈ call.baseline.tasks
  taskIds : panel = call.baseline.tasks.keys.filter fun task ↦
    (certification.lookup task).any fun certificate ↦ certificate.verdict = .deterministic
  nonempty : panel ≠ []
  audited : ∀ task ∈ panel, ∃ certificate, certification.lookup task = some certificate ∧
    (∃ audit ∈ calls, audit.Audits u hexdigest task certificate) ∧
    ∀ audit : CertifyCall, audit.Audits u hexdigest task certificate →
      ∃ rows, audit.world.chain audit.baseline.experimentId task = .ok rows ∧ Complete rows

/-- The tasks that no certificate excludes are those whose certificate is deterministic, as every task
has one. -/
theorem Certified.exact {call : CertifyCall} {certified : ExperimentResult}
    {certification : AList fun _ : TaskId ↦ TaskCertification} {panel : List TaskId}
    (h : Certified u hexdigest calls call.baseline certification)
    (hcertified : certified = { call.baseline with determinismCertification := some certification })
    (hpersisted : call.store.files.lookup call.baseline.experimentId = some certified)
    (hpanel : panel = deterministicTasks certified) (hnonempty : panel ≠ []) :
    call.Exact u hexdigest calls certified certification panel := by
  have hexact : panel = call.baseline.tasks.keys.filter fun task ↦
      (certification.lookup task).any fun certificate ↦ certificate.verdict = .deterministic := by
    rw [hpanel, hcertified]
    refine List.filter_congr fun task htask ↦ ?_
    have hmem := (h.covers task).mpr (AList.mem_keys.mp htask)
    obtain ⟨certificate, hlookup⟩ := Option.isSome_iff_exists.mp (AList.lookup_isSome.mpr hmem)
    rw [Option.getD_some, hlookup, Option.all_some, Option.any_some]
  refine ⟨hcertified, hpersisted, h.covers, hexact, hnonempty, fun task htask ↦ ?_⟩
  rw [hexact, List.mem_filter] at htask
  obtain ⟨certificate, hlookup, hverdict⟩ := (Option.any_eq_true ..).mp htask.2
  exact ⟨certificate, hlookup, h.audited task certificate hlookup,
    fun _ haudits ↦ haudits.complete (of_decide_eq_true hverdict)⟩

end Certificates

/-! ## Every run -/

/-- The files of the store carry the names of their runs and sound certificates, and so do the certified
baseline and a suspended epoch. -/
structure Filed (u : Unicode) (hexdigest : String → String) (calls : List CertifyCall) (s : Session) :
    Prop where
  named : ∀ runId record, s.store.files.lookup runId = some record → record.experimentId = runId
  files : ∀ runId record, s.store.files.lookup runId = some record → SoundRecord u hexdigest calls record
  certifiedBaseline : ∀ baseline, s.certifiedBaseline = some baseline →
    SoundRecord u hexdigest calls baseline
  window : ∀ window, s.phase = .suspended window → window.candidate.Uncertified

theorem Filed.saves {u : Unicode} {hexdigest : String → String} {calls : List CertifyCall} {s s' : Session}
    (h : Filed u hexdigest calls s) (hsaves : Saves s s') : Filed u hexdigest calls s' := by
  refine ⟨fun runId record hlookup ↦ ?_, fun runId record hlookup ↦ ?_, ?_,
    fun window hwindow ↦ h.window window (hsaves.window window hwindow)⟩
  · rcases hsaves.files runId record hlookup with hold | ⟨hid, -⟩
    · exact h.named runId record hold
    · exact hid
  · rcases hsaves.files runId record hlookup with hold | ⟨-, hnew⟩
    · exact h.files runId record hold
    · exact hnew.sound
  · rw [hsaves.certifiedBaseline]
    exact h.certifiedBaseline

/-- A call saves the baseline with sound certificates, or nothing. -/
theorem Filed.certify {u : Unicode} {hexdigest : String → String} {calls calls' : List CertifyCall}
    {s : Session} {store : RunStore} (h : Filed u hexdigest calls s) (baseline : ExperimentResult)
    (hsub : calls ⊆ calls')
    (hstore : store = s.store ∨ ∃ certification, Certified u hexdigest calls' baseline certification ∧
      store = s.store.saveExperiment { baseline with determinismCertification := some certification }) :
    Filed u hexdigest calls' { s with store } := by
  have hold (runId : String) (record : ExperimentResult)
      (hlookup : s.store.files.lookup runId = some record) :
      record.experimentId = runId ∧ SoundRecord u hexdigest calls' record :=
    ⟨h.named runId record hlookup, (h.files runId record hlookup).mono hsub⟩
  have hall (runId : String) (record : ExperimentResult) (hlookup : store.files.lookup runId = some record) :
      record.experimentId = runId ∧ SoundRecord u hexdigest calls' record := by
    rcases hstore with rfl | ⟨certification, hcertified, rfl⟩
    · exact hold runId record hlookup
    · by_cases hid : runId = baseline.experimentId
      · subst hid
        obtain rfl := Option.some.inj ((AList.lookup_insert _).symm.trans hlookup)
        refine ⟨rfl, fun certification' hcertification ↦ ?_⟩
        obtain rfl := Option.some.inj hcertification
        exact ⟨hcertified.covers, hcertified.audited⟩
      · exact hold runId record ((AList.lookup_insert_ne hid).symm.trans hlookup)
  exact ⟨fun runId record hlookup ↦ (hall runId record hlookup).1,
    fun runId record hlookup ↦ (hall runId record hlookup).2,
    fun certified hcertified ↦ (h.certifiedBaseline certified hcertified).mono hsub, h.window⟩

/-- The invariant of the machine. -/
structure ReplaySession.Inv (u : Unicode) (hexdigest : String → String) (s : ReplaySession) : Prop where
  filed : Filed u hexdigest s.calls s.session
  exact : ∀ before call after, s.calls = before ++ call :: after →
    ∀ certified panel, call.answer = .ok (certified, panel) →
      ∃ certification, call.Exact u hexdigest (before ++ [call]) certified certification panel

section Machine

variable {trainer : Trainer} {u : Unicode} {s : ReplaySession} {script : EpochScript} {world : AuditWorld}

theorem wp_within {α : Type} {program : TrainerM α} {Q : α → ReplaySession → Prop}
    {E : TrainerError → ReplaySession → Prop} : wp (within program) Q E s ↔
      wp program (fun a session ↦ Q a { s with session }) (fun error session ↦ E error { s with session })
        s.session := by
  rw [within, wp_bind, wp_get]
  rcases hexec : exec program s.session with ⟨_ | _, session⟩
  · rw [wp, wp, hexec]
    rfl
  · rw [wp, wp, hexec]
    rfl

namespace ReplaySession

/-- A stretch that certifies nothing. -/
theorem Inv.within {hexdigest : String → String} (h : s.Inv u hexdigest) {session : Session}
    (hfiled : Filed u hexdigest s.calls session) : Inv u hexdigest { s with session } :=
  ⟨hfiled, h.exact⟩

/-- One more call. -/
theorem Inv.call {hexdigest : String → String} (h : s.Inv u hexdigest) {session : Session}
    {call : CertifyCall} (hfiled : Filed u hexdigest (s.calls ++ [call]) session)
    (hexact : ∀ certified panel, call.answer = .ok (certified, panel) →
      ∃ certification, call.Exact u hexdigest (s.calls ++ [call]) certified certification panel) :
    Inv u hexdigest ⟨session, s.calls ++ [call]⟩ := by
  refine ⟨hfiled, fun before call' after hcalls certified panel hanswer ↦ ?_⟩
  rcases Transitions.split_snoc hcalls with ⟨rfl, rfl⟩ | ⟨rest, hbefore⟩
  · exact hexact certified panel hanswer
  · exact h.exact before call' rest hbefore certified panel hanswer

end ReplaySession

open Trainer

/-- **One call of `exclude_nondeterministic_tasks`.** -/
theorem certify_inv {baseline : ExperimentResult} (h : s.Inv u trainer.hexdigest)
    (hsaved : s.session.store.files.lookup baseline.experimentId = some baseline) :
    wp (trainer.certify u world baseline)
      (fun certified s' ↦ s'.Inv u trainer.hexdigest ∧
        SoundRecord u trainer.hexdigest s'.calls certified.1)
      (fun _ s' ↦ s'.Inv u trainer.hexdigest) s := by
  rw [Trainer.certify, wp_bind, wp_get]
  dsimp only
  generalize hexec : exec (excludeNondeterministicTasks u trainer.hexdigest world baseline
    s.session.certifiedBaseline) { store := s.session.store } = ended
  obtain ⟨answer, audit⟩ := ended
  dsimp only
  rw [wp_bind, wp_set]
  generalize hcall : (⟨world, baseline, s.session.certifiedBaseline, answer, audit.store⟩ : CertifyCall) =
    call
  have hsub : s.calls ⊆ s.calls ++ [call] := List.subset_append_left ..
  have hcertifies {certification : AList fun _ : TaskId ↦ TaskCertification}
      (hnone : baseline.determinismCertification = none)
      (hcertifies : Certifies u trainer.hexdigest world baseline s.session.certifiedBaseline certification) :
      Certified u trainer.hexdigest (s.calls ++ [call]) baseline certification :=
    hcertifies.certified (by rw [← hcall]) (by rw [← hcall]) (by rw [← hcall]) hnone
      h.filed.certifiedBaseline
  cases answer with
  | error text =>
    refine h.call (h.filed.certify baseline hsub ?_) ?_
    · rcases wp_error exclude_spec hexec with hstore | ⟨certification, hnone, hcertified, hstore⟩
      · exact .inl hstore
      · exact .inr ⟨certification, hcertifies hnone hcertified, hstore⟩
    · rintro certified panel hanswer
      rw [← hcall] at hanswer
      cases hanswer
  | ok result =>
    obtain ⟨certified, panel⟩ := result
    obtain ⟨certification, hsame, hpanel, hnonempty, hcases⟩ := wp_ok exclude_spec hexec
    dsimp only at hsame hpanel hnonempty hcases
    have hcertified : Certified u trainer.hexdigest (s.calls ++ [call]) baseline certification := by
      rcases hcases with ⟨hsome, -⟩ | ⟨hnone, hcertified, -⟩
      · exact ((h.filed.files _ _ hsaved).mono hsub) certification hsome
      · exact hcertifies hnone hcertified
    have hpersisted : audit.store.files.lookup baseline.experimentId = some certified := by
      rcases hcases with ⟨hsome, hstore⟩ | ⟨-, -, hstore⟩
      · rw [hstore, hsaved, hsame, ← hsome]
      · rw [hstore, hsame]
        exact AList.lookup_insert _
    refine ⟨h.call (h.filed.certify baseline hsub ?_) ?_, ?_⟩
    · rcases hcases with ⟨-, hstore⟩ | ⟨-, -, hstore⟩
      · exact .inl hstore
      · exact .inr ⟨certification, hcertified, hstore.trans (by rw [hsame])⟩
    · rintro certified' panel' hanswer
      rw [← hcall] at hanswer ⊢
      rw [← hcall] at hcertified
      cases hanswer
      exact ⟨certification, hcertified.exact hsame hpersisted hpanel hnonempty⟩
    · intro certification' hcertification
      rw [hsame] at hcertification ⊢
      obtain rfl := Option.some.inj hcertification
      exact ⟨hcertified.covers, hcertified.audited⟩

theorem startReplayEpoch_inv (h : s.Inv u trainer.hexdigest) (hscript : script.Uncertified) :
    wp (trainer.startReplayEpoch u script world) (fun _ s' ↦ s'.Inv u trainer.hexdigest)
      (fun _ s' ↦ s'.Inv u trainer.hexdigest) s := by
  simp only [startReplayEpoch, wp_bind, wp_get, wp_within]
  refine wp_mono (findBaseline_saves hscript h.filed.named) ?_
    fun _ _ hsaves ↦ h.within (h.filed.saves hsaves)
  rintro baseline session ⟨hsaves, hsaved⟩
  refine wp_mono (certify_inv (h.within (h.filed.saves hsaves)) hsaved) ?_ fun _ _ h' ↦ h'
  rintro ⟨certified, panel⟩ s₁ ⟨h₁, hsound⟩
  have hstart : Filed u trainer.hexdigest s₁.calls
      { s₁.session with certifiedBaseline := some certified, finalBaseline := some certified } := by
    refine ⟨h₁.filed.named, h₁.filed.files, ?_, h₁.filed.window⟩
    rintro baseline' hbaseline'
    obtain rfl := Option.some.inj hbaseline'
    exact hsound
  simp only [afterCertify, wp_bind, wp_modify]
  refine wp_mono (epoch_saves hscript _ certified) ?_ fun _ _ hsaves ↦ h₁.within (hstart.saves hsaves)
  rintro turn session₂ ⟨hsaves, hturn⟩
  have hfiled := hstart.saves hsaves
  cases turn with
  | skipped cause finalized =>
    exact wp_mono (finishEpoch_saves _ _ session₂) (fun _ _ hends ↦ h₁.within (hfiled.saves hends))
      fun _ _ hends ↦ h₁.within (hfiled.saves hends)
  | yielded window loss =>
    refine h₁.within ⟨hfiled.named, hfiled.files, hfiled.certifiedBaseline, fun window' hwindow ↦ ?_⟩
    obtain rfl := Phase.suspended.inj hwindow
    exact hturn window loss rfl

theorem resumeEpoch_saves {window : Window} {s : Session} (hwindow : window.candidate.Uncertified)
    (diagnoseRaises : Bool) : wp (trainer.resumeEpoch window diagnoseRaises) (fun _ s' ↦ Saves s s')
      (fun _ s' ↦ Saves s s') s := by
  simp only [resumeEpoch, wp_bind]
  refine wp_mono (conclude_saves hwindow diagnoseRaises s) (fun candidate s₁ h ↦ ?_) fun _ _ h ↦ h
  exact wp_mono (finishEpoch_saves _ _ s₁) (fun _ _ h' ↦ h.trans h') fun _ _ h' ↦ h.trans h'

/-- A run of the generator that ends, or an exception that ends the session. -/
theorem Filed.finished {hexdigest : String → String} {calls : List CertifyCall} {session : Session}
    (h : Filed u hexdigest calls session) (result : Except TrainerError Unit) :
    Filed u hexdigest calls { session with phase := .finished result } :=
  ⟨h.named, h.files, h.certifiedBaseline, by rintro _ ⟨⟩⟩

theorem Filed.user {hexdigest : String → String} {calls : List CertifyCall} {session : Session}
    (h : Filed u hexdigest calls session) (action : UserAction) :
    Filed u hexdigest calls (session.next trainer action.action) := by
  have hcall (call : Except TrainerError Parameter) : Filed u hexdigest calls (session.userCall call) := by
    cases call with
    | ok harness => exact h.saves (.of_store_eq rfl rfl rfl)
    | error error => exact h
  rw [Session.next.eq_def]
  split
  · next hphase haction => cases action <;> cases haction
  · split
    · exact hcall _
    · exact h
  · exact hcall _
  · next window diagnoseRaises hphase _ =>
    have hresume : wp (trainer.resumeEpoch window diagnoseRaises) (fun _ s' ↦ Saves session s')
        (fun _ s' ↦ Saves session s') session := resumeEpoch_saves (h.window window hphase) diagnoseRaises
    rw [Session.advance]
    split
    · next hexec =>
      have hsaves := wp_ok hresume hexec
      exact h.saves hsaves
    · next hexec =>
      have hsaves := wp_error hresume hexec
      exact (h.saves hsaves).finished _
  · exact h.finished _
  · exact h

/-- What one action does. -/
theorem next_inv (h : s.Inv u trainer.hexdigest) {action : ReplayAction} (haction : action.Uncertified) :
    (s.next trainer u action).Inv u trainer.hexdigest := by
  cases action with
  | epoch script world =>
    rw [ReplaySession.next]
    split
    · split
      · exact h.within (h.filed.finished _)
      · have hepoch : wp (trainer.startReplayEpoch u script world) (fun _ s' ↦ s'.Inv u trainer.hexdigest)
            (fun _ s' ↦ s'.Inv u trainer.hexdigest) s := startReplayEpoch_inv h haction
        rw [ReplaySession.advance]
        split
        · next hexec =>
          have h' := wp_ok hepoch hexec
          exact h'
        · next hexec =>
          have h' := wp_error hepoch hexec
          exact h'.within (h'.filed.finished _)
    · exact h
  | user action => exact h.within (h.filed.user action)
  | saves run => exact h.within (h.filed.saves (.save haction _))
  | restart harness maxEpochs =>
    exact h.within ⟨h.filed.named, h.filed.files, by rintro _ ⟨⟩, by rintro _ ⟨⟩⟩

theorem run_inv {actions : List ReplayAction} (h : s.Inv u trainer.hexdigest)
    (hactions : ∀ action ∈ actions, action.Uncertified) :
    (s.run trainer u actions).Inv u trainer.hexdigest := by
  induction actions generalizing s with
  | nil => exact h
  | cons action actions ih =>
    rw [List.forall_mem_cons] at hactions
    exact ih (next_inv h hactions.1) hactions.2

theorem start_inv (harness : Parameter) (maxEpochs : ℕ) {hexdigest : String → String} :
    (ReplaySession.start harness maxEpochs).Inv u hexdigest := by
  refine ⟨⟨?_, ?_, by rintro _ ⟨⟩, by rintro _ ⟨⟩⟩, fun before call after hcalls ↦ ?_⟩
  · rintro _ _ ⟨⟩
  · rintro _ _ ⟨⟩
  · cases before <;> cases hcalls

/-- **Only certified tasks are compared.** -/
theorem panel_exact (trainer : Trainer) (u : Unicode) (harness : Parameter) (maxEpochs : ℕ)
    {actions : List ReplayAction} (hactions : ∀ action ∈ actions, action.Uncertified)
    {before after : List CertifyCall} {call : CertifyCall} {certified : ExperimentResult}
    {panel : List TaskId}
    (hcalls : ((ReplaySession.start harness maxEpochs).run trainer u actions).calls =
      before ++ call :: after)
    (hanswer : call.answer = .ok (certified, panel)) :
    ∃ certification, call.Exact u trainer.hexdigest (before ++ [call]) certified certification panel :=
  (run_inv (start_inv harness maxEpochs) hactions).exact before call after hcalls certified panel hanswer

end Machine

/-! ## A promoted baseline -/

/-- The first baseline recorded no chain of the second task. -/
def panelWorld : AuditWorld where
  chain experimentId task := .ok (if experimentId = "r0" ∧ task = "u" then none else some [])
  loadTasks _ := .ok ()
  replayNamespace _ := none
  makeEnv _ := .ok quietEnv
  taskDir _ _ := "runs"

theorem staleEpoch_uncertified {baseline candidate : ExperimentResult} (hbaseline : baseline.Uncertified)
    (hcandidate : candidate.Uncertified) : (Session.staleEpoch baseline candidate).Uncertified := by
  refine ⟨?_, ?_, by rintro _ ⟨⟩⟩
  · rintro _ ⟨⟩
    exact hbaseline
  · rintro _ ⟨⟩
    exact hcandidate

/-- An epoch that promotes its candidate, and the certification of the promoted baseline. -/
def panelActions : List ReplayAction :=
  [.epoch (Session.staleEpoch (Session.staleMeasurement "r0" "b" [])
      (Session.staleMeasurement "r1" "c1" ["t"])) panelWorld,
    .user (.backward 0), .user (.step true), .user (.resume false),
    .epoch (Session.staleEpoch (Session.staleMeasurement "r1" "c1" ["t"])
      (Session.staleMeasurement "r2" "c2" ["t"])) panelWorld]

theorem panelActions_uncertified : ∀ action ∈ panelActions, action.Uncertified :=
  List.forall_mem_cons.mpr ⟨staleEpoch_uncertified rfl rfl, List.forall_mem_cons.mpr ⟨trivial,
    List.forall_mem_cons.mpr ⟨trivial, List.forall_mem_cons.mpr ⟨trivial,
      List.forall_mem_cons.mpr ⟨staleEpoch_uncertified rfl rfl, List.forall_mem_nil _⟩⟩⟩⟩⟩

/-- The calls of these epochs. -/
def panelCalls : List CertifyCall :=
  ((ReplaySession.start Session.staleSession.harness 2).run Session.staleTrainer .ascii panelActions).calls

theorem panelCalls_answer : ∃ before call certified, panelCalls = before ++ call :: [] ∧
    before.length = 1 ∧ call.baseline.experimentId = "r1" ∧ call.answer = .ok (certified, ["t"]) := by
  have hlength : panelCalls.length = 2 := by decide +kernel
  have hlast : (panelCalls.getLast?.map fun call ↦
      (call.baseline.experimentId, call.answer.toOption.map Prod.snd)) = some ("r1", some ["t"]) := by
    decide +kernel
  obtain ⟨call, hcall, hvalues⟩ := Option.map_eq_some_iff.mp hlast
  obtain ⟨before, hcalls⟩ := List.getLast?_eq_some_iff.mp hcall
  obtain ⟨hbaseline, hpanel⟩ := Prod.mk.inj hvalues
  obtain ⟨result, hanswer, hresult⟩ := Option.map_eq_some_iff.mp hpanel
  refine ⟨before, call, result.1, hcalls, ?_, hbaseline, ?_⟩
  · rw [hcalls, List.length_append, List.length_singleton] at hlength
    omega
  · cases hreturned : call.answer with
    | error text =>
      rw [hreturned] at hanswer
      cases hanswer
    | ok returned =>
      rw [hreturned] at hanswer
      obtain rfl := Option.some.inj hanswer
      rw [← hresult]

/-- The promoted baseline takes over that the second task has no chain. -/
theorem panel_exact_promoted : ∃ before call certified certification,
    panelCalls = before ++ call :: [] ∧ before.length = 1 ∧ call.baseline.experimentId = "r1" ∧
      call.Exact .ascii id (before ++ [call]) certified certification ["t"] := by
  obtain ⟨before, call, certified, hcalls, hlength, hbaseline, hanswer⟩ := panelCalls_answer
  obtain ⟨certification, hexact⟩ := panel_exact Session.staleTrainer .ascii Session.staleSession.harness 2
    panelActions_uncertified hcalls hanswer
  exact ⟨before, call, certified, certification, hcalls, hlength, hbaseline, hexact⟩

end HarnessTraining
