import HarnessTraining.Trainer.PatchSurface
import HarnessTraining.Trainer.Session

/-!
# Training outcome and `HEAD`

What an epoch records against where it leaves `HEAD`.

* `WindowAgrees` — the invariant of a suspended epoch: `HEAD` is still the baseline and the
  candidate was not applied, or `HEAD` is the candidate and it was.
* `next_epoch`, `next_step`, `next_resume` — what each action does, as one lemma each.
* `SoundStep` — the condition on a call of `optimizer.step()` under which the invariant survives it:
  a verdict that is not the epoch's own must not move `HEAD`, nor hide that it was moved.
* `training_outcome_agrees` — in every run whose steps are sound, every recorded decision agrees
  with `HEAD`, an abandoned epoch records none, and a superseded first attempt has no index row.
* `training_outcome_stale` — without the condition it fails: a verdict of an earlier epoch, applied
  again, makes the promotion of this epoch's candidate be recorded as a rejection.
-/

set_option autoImplicit false

namespace HarnessTraining

open StateExcept

/-! ## Ancestry -/

namespace Repo

variable {repo : Repo} {ancestor sha : Sha}

theorem reaches_self (fuel : ℕ) : repo.reaches sha fuel sha = true := by
  cases fuel <;> simp [reaches]

theorem isAncestor_self : repo.isAncestor sha sha = true := reaches_self _

/-- Ancestors are not younger. -/
theorem rank_le_of_reaches {fuel : ℕ} (h : repo.reaches ancestor fuel sha = true) :
    repo.rank ancestor ≤ repo.rank sha := by
  induction fuel generalizing sha with
  | zero => exact (of_decide_eq_true h) ▸ le_rfl
  | succ fuel ih =>
    rw [reaches, Bool.or_eq_true, decide_eq_true_eq, List.any_eq_true] at h
    rcases h with rfl | ⟨parent, hparent, hreach⟩
    · exact le_rfl
    · rw [parents] at hparent
      split at hparent
      · rename_i commit hcommit
        exact (ih hreach).trans (repo.parent_older hcommit hparent).le
      · cases hparent

/-- The only parent of a commit is its ancestor, and not conversely. -/
theorem isAncestor_of_parents {base : Sha} (h : repo.parents sha = [base]) :
    repo.isAncestor base sha = true ∧ repo.isAncestor sha base = false := by
  have holder : repo.rank base < repo.rank sha := by
    have hmem : base ∈ repo.parents sha := by rw [h]; exact List.mem_singleton_self _
    rw [parents] at hmem
    split at hmem
    · rename_i commit hcommit
      exact repo.parent_older hcommit hmem
    · cases hmem
  constructor
  · obtain ⟨fuel, hfuel⟩ := Nat.exists_eq_succ_of_ne_zero (Nat.ne_zero_of_lt holder)
    rw [isAncestor, hfuel, reaches, h]
    simp [reaches_self]
  · rw [Bool.eq_false_iff]
    exact fun hreach ↦ (rank_le_of_reaches hreach).not_gt holder

theorem ne_of_parents {base : Sha} (h : repo.parents sha = [base]) : sha ≠ base := by
  rintro rfl
  obtain ⟨hself, hnot⟩ := isAncestor_of_parents h
  rw [hself] at hnot
  cases hnot

end Repo

/-! ## Lifted answers -/

section Lift

variable {α : Type} {Q : α → Session → Prop} {E : TrainerError → Session → Prop} {s : Session}

theorem wp_orRaise {answer : Option α} {message : String} :
    wp (orRaise answer message) Q E s ↔
      (∀ a, answer = some a → Q a s) ∧ (answer = none → E (.foreign message) s) := by
  cases answer with
  | some a => simp [orRaise]
  | none => simp [orRaise]

theorem wp_liftExcept {result : Except TrainerError α} :
    wp (liftExcept result) Q E s ↔
      (∀ a, result = .ok a → Q a s) ∧ ∀ e, result = .error e → E e s := by
  have heq : liftExcept result = MonadExcept.ofExcept result := by cases result <;> rfl
  rw [heq, StateExcept.wp_ofExcept]

end Lift

namespace Trainer

variable {trainer : Trainer} {s : Session}

/-! ## One lemma for each stretch of the generator -/

/-- The index after `rows` were added. -/
def Appends (s s' : Session) (rows : List RunIndexRow) : Prop :=
  s'.store.index = s.store.index ++ rows

/-- What recording a run does: it adds the run's row, or raises and does nothing. -/
theorem wp_record {result : ExperimentResult} {kind : RunKind} {parent : Option Sha}
    {baselineId : Option String} {decision : Option ResultDecision}
    {Q : ExperimentResult → Session → Prop} {E : TrainerError → Session → Prop}
    (hok : ∀ store updated row, store.index = s.store.index ++ [row] →
      updated = RunStore.withRelations result kind parent baselineId decision →
      row.experimentId = result.experimentId → row.kind = kind →
      row.gitCommitHash = result.gitCommitHash → row.parentCommitHash = parent →
      row.verdict = decision.map ResultDecision.outcome → Q updated { s with store := store })
    (herror : ∀ e, E e s) :
    wp (trainer.record result kind parent baselineId decision) Q E s := by
  simp only [record, wp_bind, wp_get]
  split
  · exact herror _
  · rename_i store updated heq
    obtain ⟨hupdated, row, hindex, hid, hkind, hgit, hparent, hverdict⟩ :=
      RunStore.recordFinalizedRun_ok heq
    exact hok store updated row hindex hupdated hid hkind hgit hparent hverdict

/-- Preparing a baseline adds at most the row of a measured baseline, without a verdict. -/
structure Prepared (script : EpochScript) (s s' : Session) : Prop where
  harness : s'.harness = s.harness
  artifactOnly : s'.artifactOnly = s.artifactOnly
  rows : ∃ rows, Appends s s' rows ∧ ∀ row ∈ rows, row.verdict = none ∧
    ∃ run, script.baselineRun = some run ∧ row.experimentId = run.experimentId

theorem Prepared.refl (script : EpochScript) (s : Session) : Prepared script s s :=
  ⟨rfl, rfl, [], by rw [Appends, List.append_nil], by simp⟩

/-- The fields a stretch of the generator did not touch carry `Prepared` along. -/
theorem Prepared.congr {script : EpochScript} {s s' s'' : Session} (h : Prepared script s s')
    (hharness : s''.harness = s'.harness) (hartifact : s''.artifactOnly = s'.artifactOnly)
    (hstore : s''.store = s'.store) : Prepared script s s'' := by
  obtain ⟨rows, happends, hrows⟩ := h.rows
  exact ⟨hharness.trans h.harness, hartifact.trans h.artifactOnly, rows,
    by rw [Appends, hstore, happends], hrows⟩

theorem findBaseline_spec {baselineCommit : Sha} {script : EpochScript} :
    Preserves (Prepared script) (trainer.findBaseline baselineCommit script) := by
  intro s
  simp only [findBaseline, wp_bind, wp_orRaise, wp_get]
  refine ⟨fun identity _ ↦ ?_, fun _ ↦ .refl script s⟩
  split
  · exact .refl script s
  · exact .refl script s
  · simp only [measureBaseline, wp_bind, wp_orRaise]
    refine ⟨fun measured hmeasured ↦ wp_record ?_ fun _ ↦ .refl script s, fun _ ↦ .refl script s⟩
    intro store updated row hindex _ hid _ _ _ hverdict
    refine ⟨rfl, rfl, [row], hindex, fun row' hrow' ↦ ?_⟩
    obtain rfl := List.mem_singleton.mp hrow'
    exact ⟨hverdict, measured, hmeasured, hid⟩

theorem prepareBaseline_spec {baselineCommit : Sha} {script : EpochScript} :
    Preserves (Prepared script) (trainer.prepareBaseline baselineCommit script) := by
  intro s
  simp only [prepareBaseline, wp_bind, wp_orRaise, wp_modify, wp_pure]
  refine wp_mono (findBaseline_spec s) (fun baseline s' h ↦ ?_) fun _ _ h ↦ h
  exact ⟨fun _ _ ↦ h.congr rfl rfl rfl, fun _ ↦ h⟩

/-- Proposing moves nothing but the set of known commits. -/
structure Proposed (s s' : Session) : Prop where
  head : s'.harness.head = s.harness.head
  artifactOnly : s'.artifactOnly = s.artifactOnly
  store : s'.store = s.store

theorem validateCandidate_parents {git : RenameDetection} {repo : Repo} {candidate : Candidate}
    {config : TrainingTargetConfig} (h : validateCandidate git repo candidate config = .ok ()) :
    repo.parents candidate.commit = [candidate.baseCommit] := by
  rw [validateCandidate] at h
  split at h
  · cases h
  · rename_i commit hcommit
    split at h
    · cases h
    · rename_i hparents
      rw [Repo.parents, hcommit]
      exact not_not.mp hparents

theorem propose_spec {baselineCommit : Sha} {script : EpochScript} :
    wp (trainer.propose baselineCommit script)
      (fun candidateRef s' ↦ Proposed s s' ∧
        s'.harness.repo.parents candidateRef.commit = [baselineCommit] ∧
        candidateRef.baseCommit = baselineCommit)
      (fun _ s' ↦ Proposed s s') s := by
  have hrefl : Proposed s s := ⟨rfl, rfl, rfl⟩
  simp only [propose, wp_bind, wp_orRaise, wp_get, wp_liftExcept, wp_set]
  refine ⟨fun worktree _ ↦ ⟨?_, fun _ _ ↦ hrefl⟩, fun _ ↦ hrefl⟩
  rintro ⟨repo, candidateRef⟩ hcapture
  have hbase : candidateRef.baseCommit = baselineCommit := by rw [(captureCandidate_ok hcapture).1]
  refine ⟨fun _ hvalidate ↦ ?_, fun _ _ ↦ ⟨rfl, rfl, rfl⟩⟩
  split
  · exact ⟨rfl, rfl, rfl⟩
  · exact ⟨⟨rfl, rfl, rfl⟩, hbase ▸ validateCandidate_parents hvalidate, hbase⟩

/-- What one attempt can come to. -/
theorem judgeAttempt_cases {baseline : ExperimentResult} {candidateRef : Candidate}
    {attempt : Attempt} {judgement : Judgement}
    (h : trainer.judgeAttempt baseline candidateRef attempt = .ok judgement) :
    (∃ candidate loss, judgement = .judged candidate loss ∧ attempt.run? = some candidate ∧
        candidate.gitCommitHash = candidateRef.commit) ∨
      ∃ run decision, judgement = .failed run decision ∧ attempt.run? = run ∧
        ∀ d, decision = some d → d.outcome = .invalidInfra ∧
          ∀ candidate, run = some candidate → candidate.gitCommitHash = candidateRef.commit := by
  cases attempt with
  | measurementError result =>
    cases h
    exact Or.inr ⟨_, _, rfl, rfl, by simp⟩
  | measured candidate =>
    simp only [judgeAttempt] at h
    split at h
    · cases h
    · rename_i hcommit
      rw [not_not] at hcommit
      split at h
      · cases h
        exact Or.inl ⟨_, _, rfl, rfl, hcommit⟩
      · rename_i decision hjudge
        cases h
        refine Or.inr ⟨_, _, rfl, rfl, fun d hd ↦ ?_⟩
        cases hd
        refine ⟨trainer.criterion.judge_unmeasurable hjudge, fun candidate' h ↦ ?_⟩
        cases h
        exact hcommit
      · cases h

/-- Measuring sets aside the first attempt, or nothing; the answer is that of the attempt kept. -/
def Measured (script : EpochScript) (s s' : Session) (kept : Attempt) : Prop :=
  (s' = s ∧ kept = script.first) ∨
    (s' = { s with artifactOnly := s.artifactOnly ++ script.first.run?.toList } ∧
      kept = script.second)

theorem measureCandidate_spec {baseline : ExperimentResult} {candidateRef : Candidate}
    {script : EpochScript} :
    wp (trainer.measureCandidate baseline candidateRef script)
      (fun judgement s' ↦ ∃ kept, Measured script s s' kept ∧
        trainer.judgeAttempt baseline candidateRef kept = .ok judgement ∧
        ((∃ run decision, judgement = .failed run decision) → kept = script.second))
      (fun _ s' ↦ ∃ kept, Measured script s s' kept) s := by
  simp only [measureCandidate, wp_bind, wp_liftExcept]
  refine ⟨fun judgement hfirst ↦ ?_, fun _ _ ↦ ⟨_, Or.inl ⟨rfl, rfl⟩⟩⟩
  cases judgement with
  | judged candidate loss =>
    refine ⟨_, Or.inl ⟨rfl, rfl⟩, hfirst, ?_⟩
    rintro ⟨_, _, h⟩
    cases h
  | failed run decision =>
    simp only [wp_bind, wp_modify, wp_liftExcept]
    exact ⟨fun judgement hsecond ↦ ⟨_, Or.inr ⟨rfl, rfl⟩, hsecond, fun _ ↦ rfl⟩,
      fun _ _ ↦ ⟨_, Or.inr ⟨rfl, rfl⟩⟩⟩

/-- The only verdict an epoch records before its `yield`: infra decided, on a direct child of
`HEAD`. -/
def InfraRow (repo : Repo) (head : Sha) (row : RunIndexRow) : Prop :=
  row.verdict ≠ none → row.verdict = some .invalidInfra ∧ row.kind = .candidate ∧
    row.parentCommitHash = some head ∧ repo.parents row.gitCommitHash = [head]

/-- Whether the run is one an attempt or a baseline measurement left. -/
def IsRunOf (run? : Option ExperimentResult) (experimentId : String) : Prop :=
  ∃ run, run? = some run ∧ experimentId = run.experimentId

/-- What an epoch does to the records before its `yield`. -/
structure Stretch (script : EpochScript) (s s' : Session) : Prop where
  head : s'.harness.head = s.harness.head
  artifactOnly : s'.artifactOnly = s.artifactOnly ∨
    s'.artifactOnly = s.artifactOnly ++ script.first.run?.toList
  rows : ∃ rows, Appends s s' rows ∧ ∀ row ∈ rows,
    InfraRow s'.harness.repo s.harness.head row ∧
      (IsRunOf script.baselineRun row.experimentId ∨ IsRunOf script.second.run? row.experimentId)

/-- A window as it opens: nothing is pending, nothing applied, no decision recorded, and `HEAD` is
the baseline of a direct child. -/
structure Opened (script : EpochScript) (s s' : Session) (window : Window) : Prop where
  baselineCommit : window.baselineCommit = s.harness.head
  baseCommit : window.candidateRef.baseCommit = s.harness.head
  parents : s'.harness.repo.parents window.candidateRef.commit = [s.harness.head]
  commit : window.candidate.gitCommitHash = window.candidateRef.commit
  grad : s'.harness.grad = none
  applied : s'.harness.applied = none
  kept : (s'.artifactOnly = s.artifactOnly ∧ script.first.run? = some window.candidate) ∨
    (s'.artifactOnly = s.artifactOnly ++ script.first.run?.toList ∧
      script.second.run? = some window.candidate)
  noDecision : ∃ rows, Appends s s' rows ∧ ∀ row ∈ rows, row.verdict = none

section Stretch

variable {script : EpochScript} {s s₁ s₂ : Session} {window : Window}

theorem Stretch.of_store_eq (hhead : s₁.harness.head = s.harness.head)
    (hartifact : s₁.artifactOnly = s.artifactOnly ∨
      s₁.artifactOnly = s.artifactOnly ++ script.first.run?.toList)
    (hstore : s₁.store = s.store) : Stretch script s s₁ :=
  ⟨hhead, hartifact, [], by rw [Appends, hstore, List.append_nil], by simp⟩

theorem Proposed.stretch (h : Proposed s s₁) : Stretch script s s₁ :=
  .of_store_eq h.head (Or.inl h.artifactOnly) h.store

theorem Measured.stretch {kept : Attempt} (h : Measured script s s₁ kept) :
    Stretch script s s₁ := by
  rcases h with ⟨rfl, -⟩ | ⟨rfl, -⟩
  · exact .of_store_eq rfl (Or.inl rfl) rfl
  · exact .of_store_eq rfl (Or.inr rfl) rfl

theorem Stretch.after_proposed (h : Proposed s s₁) (h' : Stretch script s₁ s₂) :
    Stretch script s s₂ := by
  obtain ⟨rows, happends, hrows⟩ := h'.rows
  refine ⟨h'.head.trans h.head, h.artifactOnly ▸ h'.artifactOnly, rows, ?_, h.head ▸ hrows⟩
  rw [Appends, happends, h.store]

theorem Opened.after_proposed (h : Proposed s s₁) (h' : Opened script s₁ s₂ window) :
    Opened script s s₂ window := by
  obtain ⟨hbaseline, hbase, hparents, hcommit, hgrad, happlied, hkept, rows, happends, hrows⟩ := h'
  rw [h.head] at hbaseline hbase hparents
  rw [h.artifactOnly] at hkept
  rw [Appends, h.store] at happends
  exact ⟨hbaseline, hbase, hparents, hcommit, hgrad, happlied, hkept, rows, happends, hrows⟩

theorem Stretch.after_prepared (h : Prepared script s s₁) (h' : Stretch script s₁ s₂) :
    Stretch script s s₂ := by
  obtain ⟨rows, happends, hrows⟩ := h.rows
  obtain ⟨rows', happends', hrows'⟩ := h'.rows
  refine ⟨h.harness ▸ h'.head, h.artifactOnly ▸ h'.artifactOnly, rows ++ rows', ?_, ?_⟩
  · rw [Appends, happends', happends, List.append_assoc]
  · intro row hrow
    rcases List.mem_append.mp hrow with hrow | hrow
    · exact ⟨fun h ↦ absurd (hrows row hrow).1 h, Or.inl (hrows row hrow).2⟩
    · exact h.harness ▸ hrows' row hrow

theorem Opened.after_prepared (h : Prepared script s s₁) (h' : Opened script s₁ s₂ window) :
    Opened script s s₂ window := by
  obtain ⟨hbaseline, hbase, hparents, hcommit, hgrad, happlied, hkept, rows', happends', hrows'⟩ := h'
  obtain ⟨rows, happends, hrows⟩ := h.rows
  rw [h.harness] at hbaseline hbase hparents
  rw [h.artifactOnly] at hkept
  refine ⟨hbaseline, hbase, hparents, hcommit, hgrad, happlied, hkept, rows ++ rows', ?_, ?_⟩
  · rw [Appends, happends', happends, List.append_assoc]
  · intro row hrow
    exact (List.mem_append.mp hrow).elim (fun h ↦ (hrows row h).1) (hrows' row)

end Stretch

theorem judgeCandidate_spec {baseline : ExperimentResult} {candidateRef : Candidate}
    {script : EpochScript} (hparents : s.harness.repo.parents candidateRef.commit = [s.harness.head])
    (hbase : candidateRef.baseCommit = s.harness.head) :
    wp (trainer.judgeCandidate s.harness.head baseline candidateRef script)
      (fun turn s' ↦ Stretch script s s' ∧
        ∀ window loss, turn = .yielded window loss → Opened script s s' window)
      (fun _ s' ↦ Stretch script s s') s := by
  simp only [judgeCandidate, wp_bind, wp_ite, wp_throw]
  refine ⟨fun _ ↦ .of_store_eq rfl (Or.inl rfl) rfl, fun _ ↦ ?_⟩
  refine wp_mono (measureCandidate_spec (s := s)) ?_ (by rintro _ s' ⟨_, h⟩; exact h.stretch)
  rintro judgement s₁ ⟨kept, hmeasured, hjudge, hfailed⟩
  have hsame : s₁.harness = s.harness ∧ s₁.store = s.store := by
    rcases hmeasured with ⟨rfl, -⟩ | ⟨rfl, -⟩ <;> exact ⟨rfl, rfl⟩
  obtain ⟨candidate, loss, rfl, hrun, hcommit⟩ | ⟨run, decision, rfl, hrun, hdecision⟩ :=
    judgeAttempt_cases hjudge
  · simp only [wp_bind, wp_modify, wp_pure]
    refine ⟨.of_store_eq (by rw [hsame.1]) hmeasured.stretch.artifactOnly hsame.2, ?_⟩
    rintro window loss' h
    cases h
    refine ⟨rfl, hbase, by rw [hsame.1]; exact hparents, hcommit, rfl, rfl, ?_, [], ?_, by simp⟩
    · rcases hmeasured with ⟨rfl, rfl⟩ | ⟨rfl, rfl⟩
      · exact Or.inl ⟨rfl, hrun⟩
      · exact Or.inr ⟨rfl, hrun⟩
    · rw [Appends, hsame.2, List.append_nil]
  · -- only the second attempt can fail for good
    obtain rfl := hfailed ⟨run, decision, rfl⟩
    cases run with
    | none => exact ⟨hmeasured.stretch, fun _ _ h ↦ by cases h⟩
    | some failedRun =>
      simp only [wp_bind, wp_pure]
      refine wp_record ?_ fun _ ↦ hmeasured.stretch
      intro store updated row hindex _ hid hkind hgit hparent hverdict
      refine ⟨⟨by rw [hsame.1], hmeasured.stretch.artifactOnly, [row], ?_, ?_⟩,
        fun _ _ h ↦ by cases h⟩
      · rw [Appends, hindex, hsame.2]
      · intro row' hrow'
        obtain rfl := List.mem_singleton.mp hrow'
        refine ⟨fun hsome ↦ ?_, Or.inr ⟨failedRun, hrun, hid⟩⟩
        cases decision with
        | none => exact absurd hverdict hsome
        | some d =>
          obtain ⟨houtcome, hcommit⟩ := hdecision d rfl
          refine ⟨by rw [hverdict, Option.map_some, houtcome], hkind, hparent, ?_⟩
          rw [hgit, hcommit failedRun rfl, hsame.1]
          exact hparents

theorem epoch_spec {baseline : ExperimentResult} {script : EpochScript} :
    wp (trainer.epoch s.harness.head baseline script)
      (fun turn s' ↦ Stretch script s s' ∧
        ∀ window loss, turn = .yielded window loss → Opened script s s' window)
      (fun _ s' ↦ Stretch script s s') s := by
  simp only [epoch, wp_bind, wp_tryCatch, wp_map]
  refine wp_mono (propose_spec (s := s)) ?_ ?_
  · rintro candidateRef s₁ ⟨h, hparents, hbase⟩
    rw [← h.head] at hparents hbase ⊢
    refine wp_mono (judgeCandidate_spec hparents hbase) ?_ fun _ _ h' ↦ h'.after_proposed h
    rintro turn s₂ ⟨h', hopened⟩
    exact ⟨h'.after_proposed h,
      fun window loss hturn ↦ (hopened window loss hturn).after_proposed h⟩
  · intro error s₁ h
    cases error with
    | candidateValidation error => exact ⟨h.stretch, fun _ _ h ↦ by cases h⟩
    | _ => exact h.stretch

theorem finishEpoch_spec {skipCause : Option String} {finalized : Option ExperimentResult} :
    Preserves (fun s s' : Session ↦ s'.harness = s.harness ∧ s'.store = s.store ∧
      s'.artifactOnly = s.artifactOnly ∧ s'.phase = .ready) (finishEpoch skipCause finalized) := by
  intro s
  simp [finishEpoch]

/-- Everything an epoch can do before it suspends or ends. -/
theorem startEpoch_spec (trainer : Trainer) (script : EpochScript) :
    wp (trainer.startEpoch script)
      (fun _ s' ↦ Stretch script s s' ∧
        (s'.phase = .ready ∨ ∃ window, s'.phase = .suspended window ∧ Opened script s s' window))
      (fun _ s' ↦ Stretch script s s') s := by
  simp only [startEpoch, wp_bind, wp_get]
  refine wp_mono (prepareBaseline_spec s) ?_ fun _ s₁ h ↦
    .after_prepared h (.of_store_eq rfl (Or.inl rfl) rfl)
  intro baseline s₁ h
  rw [← h.harness]
  refine wp_mono (epoch_spec (s := s₁)) ?_ fun _ s₂ h' ↦ h'.after_prepared h
  rintro turn s₂ ⟨h', hopened⟩
  cases turn with
  | skipped cause finalized =>
    refine wp_mono (finishEpoch_spec s₂) ?_ ?_
    · rintro _ s₃ ⟨hharness, hstore, hartifact, hphase⟩
      obtain ⟨hhead, hart, rows, happends, hrows⟩ := h'.after_prepared h
      refine ⟨⟨by rw [hharness, hhead], by rwa [hartifact], rows, ?_, by rwa [hharness]⟩,
        Or.inl hphase⟩
      rw [Appends, hstore, happends]
    · rintro _ s₃ ⟨hharness, hstore, hartifact, -⟩
      obtain ⟨hhead, hart, rows, happends, hrows⟩ := h'.after_prepared h
      refine ⟨by rw [hharness, hhead], by rwa [hartifact], rows, ?_, by rwa [hharness]⟩
      rw [Appends, hstore, happends]
  | yielded window loss =>
    obtain ⟨hhead, hart, hrows⟩ := h'.after_prepared h
    obtain ⟨h₁, h₂, h₃, h₄, h₅, h₆, h₇, h₈⟩ := (hopened window loss rfl).after_prepared h
    exact ⟨⟨hhead, hart, hrows⟩, Or.inr ⟨window, rfl, h₁, h₂, h₃, h₄, h₅, h₆, h₇, h₈⟩⟩

/-- What concluding an epoch does: it moves nothing, and records at most one decision, which says
promoted exactly when the candidate is what was applied. -/
structure Concluded (window : Window) (s s' : Session) : Prop where
  head : s'.harness.head = s.harness.head
  repo : s'.harness.repo = s.harness.repo
  artifactOnly : s'.artifactOnly = s.artifactOnly
  rows : Appends s s' [] ∨ ∃ row outcome, Appends s s' [row] ∧
    row.experimentId = window.candidate.experimentId ∧
    row.gitCommitHash = window.candidateRef.commit ∧
    row.parentCommitHash = some window.candidateRef.baseCommit ∧
    row.verdict = some outcome ∧
    outcome = (if s.harness.applied = some window.candidateRef.commit then .promoted else .rejected) ∧
    row.kind = if outcome = .promoted then .baseline else .candidate

theorem Concluded.of_same {window : Window} {s s' : Session} (hhead : s'.harness = s.harness)
    (hartifact : s'.artifactOnly = s.artifactOnly) (hstore : s'.store = s.store) :
    Concluded window s s' :=
  ⟨by rw [hhead], by rw [hhead], hartifact, Or.inl (by rw [Appends, hstore, List.append_nil])⟩

theorem promoted_ok {loss : Loss} {harness : Parameter} {promoted : Bool}
    (h : loss.promoted harness = .ok promoted) :
    promoted = true ↔ harness.applied = some loss.candidate.gitCommitHash := by
  rw [Loss.promoted] at h
  split at h
  · cases h
  · rename_i applied heq
    cases h
    split at heq
    · rw [heq, decide_eq_true_iff, Option.some_inj]
    · cases heq

theorem conclude_spec {window : Window} {diagnoseRaises : Bool} :
    Preserves (Concluded window) (trainer.conclude window diagnoseRaises) := by
  intro s
  have hrefl : Concluded window s s := .of_same rfl rfl rfl
  simp only [conclude, wp_bind, wp_get]
  split
  · exact hrefl
  · rename_i loss hgrad
    simp only [wp_bind, wp_ite, wp_throw, wp_pure, wp_liftExcept, wp_modify]
    refine ⟨fun _ ↦ hrefl, fun hloss ↦ ⟨fun _ ↦ hrefl, fun _ ↦ ⟨fun _ ↦ hrefl, fun hcommit ↦
      ⟨fun promoted hpromoted ↦ wp_record ?_ fun _ ↦ hrefl, fun _ _ ↦ hrefl⟩⟩⟩⟩
    intro store updated row hindex _ hid hkind hgit hparent hverdict
    rw [not_not] at hloss hcommit
    have houtcome : (trainer.criterion.decision loss promoted).outcome =
        if s.harness.applied = some window.candidateRef.commit then .promoted else .rejected := by
      rw [trainer.criterion.decision_outcome, ← hloss]
      exact if_congr (promoted_ok hpromoted) rfl rfl
    have hrow : ∀ s', s'.harness = { s.harness with grad := none, applied := none } →
        s'.artifactOnly = s.artifactOnly → s'.store = store → Concluded window s s' := by
      intro s' hharness hartifact hstore
      refine ⟨by rw [hharness], by rw [hharness], hartifact, Or.inr ⟨row, _, ?_, hid,
        hgit.trans hcommit, hparent, hverdict, houtcome, hkind⟩⟩
      rw [Appends, hstore, hindex]
    exact ⟨fun _ ↦ hrow _ rfl rfl rfl, fun _ ↦ hrow _ rfl rfl rfl⟩

theorem resumeEpoch_spec (trainer : Trainer) (window : Window) (diagnoseRaises : Bool) :
    wp (trainer.resumeEpoch window diagnoseRaises)
      (fun _ s' ↦ Concluded window s s' ∧ s'.phase = .ready)
      (fun _ s' ↦ Concluded window s s') s := by
  simp only [resumeEpoch, wp_bind]
  refine wp_mono (conclude_spec s) ?_ fun _ _ h ↦ h
  intro candidate s₁ h
  have hcongr : ∀ s₂ : Session, s₂.harness = s₁.harness → s₂.store = s₁.store →
      s₂.artifactOnly = s₁.artifactOnly → Concluded window s s₂ := by
    intro s₂ hharness hstore hartifact
    obtain ⟨hhead, hrepo, hart, hrows⟩ := h
    refine ⟨by rw [hharness, hhead], by rw [hharness, hrepo], hartifact.trans hart, ?_⟩
    simpa only [Appends, hstore] using hrows
  refine wp_mono (finishEpoch_spec s₁) ?_ ?_
  · rintro _ s₂ ⟨hharness, hstore, hartifact, hphase⟩
    exact ⟨hcongr s₂ hharness hstore hartifact, hphase⟩
  · rintro _ s₂ ⟨hharness, hstore, hartifact, _⟩
    exact hcongr s₂ hharness hstore hartifact

end Trainer

open Trainer

/-! ## The actions -/

/-- The invariant of a suspended epoch: the candidate is a validated child of the baseline, and it
was applied exactly when `HEAD` is at it. -/
structure WindowAgrees (window : Window) (harness : Parameter) : Prop where
  baseCommit : window.candidateRef.baseCommit = window.baselineCommit
  parents : harness.repo.parents window.candidateRef.commit = [window.baselineCommit]
  head : harness.head = window.baselineCommit ∧
      harness.applied ≠ some window.candidateRef.commit ∨
    harness.head = window.candidateRef.commit ∧ harness.applied = some window.candidateRef.commit

/-- A call of `optimizer.step()` is sound if the pending verdict is the epoch's own, or it does not
select its candidate, or git refuses the merge, or `HEAD` is still at the baseline and already
contains the candidate of that verdict. -/
def SoundStep (optimizer : Optimizer) (window : Window) (harness : Parameter) (allowed : Bool) :
    Prop :=
  ∀ loss, harness.grad = some loss → optimizer.shouldPromote loss = true →
    loss.candidate.gitCommitHash = window.candidateRef.commit ∨
      mergeFfOnly harness.repo harness.head loss.candidate.gitCommitHash allowed = none ∨
      harness.head = window.baselineCommit ∧
        harness.repo.isAncestor loss.candidate.gitCommitHash window.baselineCommit = true

instance (optimizer : Optimizer) (window : Window) (harness : Parameter) (allowed : Bool) :
    Decidable (SoundStep optimizer window harness allowed) :=
  inferInstanceAs (Decidable (∀ loss, harness.grad = some loss →
    optimizer.shouldPromote loss = true → _))

theorem mergeFfOnly_self {repo : Repo} {head head' : Sha} {allowed : Bool}
    (h : mergeFfOnly repo head head allowed = some head') : head' = head := by
  rw [mergeFfOnly, Repo.isAncestor_self] at h
  split at h
  · cases h
  · exact (Option.some_inj.mp h).symm

theorem mergeFfOnly_ancestor {repo : Repo} {head target head' : Sha} {allowed : Bool}
    (hancestor : repo.isAncestor target head = true)
    (h : mergeFfOnly repo head target allowed = some head') : head' = head := by
  rw [mergeFfOnly, if_pos hancestor] at h
  split at h
  · cases h
  · exact (Option.some_inj.mp h).symm

theorem mergeFfOnly_child {repo : Repo} {head target head' : Sha} {allowed : Bool}
    (hparents : repo.parents target = [head])
    (h : mergeFfOnly repo head target allowed = some head') : head' = target := by
  obtain ⟨hup, hdown⟩ := Repo.isAncestor_of_parents hparents
  rw [mergeFfOnly, hdown, hup] at h
  split at h
  · cases h
  · exact (Option.some_inj.mp h).symm

/-- A sound call of `optimizer.step()` keeps the invariant. -/
theorem WindowAgrees.step {optimizer : Optimizer} {window : Window} {harness harness' : Parameter}
    {allowed : Bool} (hagrees : WindowAgrees window harness)
    (hsound : SoundStep optimizer window harness allowed)
    (h : optimizer.step harness allowed = .ok harness') : WindowAgrees window harness' := by
  rw [Optimizer.step] at h
  split at h
  · cases h
  · rename_i loss hgrad
    dsimp only at h
    split at h
    · cases h
    · rename_i head hmerge
      cases h
      obtain ⟨hbase, hparents, hhead⟩ := hagrees
      have hne := Repo.ne_of_parents hparents
      refine ⟨hbase, hparents, ?_⟩
      cases hpromote : optimizer.shouldPromote loss with
      | false =>
        -- the target is `HEAD` itself
        simp only [Optimizer.target, hpromote, Bool.false_eq_true, if_false] at hmerge ⊢
        obtain rfl := mergeFfOnly_self hmerge
        rcases hhead with ⟨heq, -⟩ | ⟨heq, -⟩
        · exact Or.inl ⟨heq, by rw [heq]; exact fun h ↦ hne (Option.some_inj.mp h).symm⟩
        · exact Or.inr ⟨heq, by rw [heq]⟩
      | true =>
        simp only [Optimizer.target, hpromote, if_true] at hmerge ⊢
        rcases hsound loss hgrad hpromote with hown | hrefused | ⟨hbaseline, hancestor⟩
        · refine Or.inr ⟨?_, by rw [hown]⟩
          rw [hown] at hmerge
          rcases hhead with ⟨heq, -⟩ | ⟨heq, -⟩
          · exact mergeFfOnly_child (heq ▸ hparents) hmerge
          · exact mergeFfOnly_self (heq ▸ hmerge)
        · rw [hrefused] at hmerge
          cases hmerge
        · refine Or.inl ⟨(mergeFfOnly_ancestor (hbaseline ▸ hancestor) hmerge).trans hbaseline, ?_⟩
          intro h
          rw [Option.some_inj.mp h, (Repo.isAncestor_of_parents hparents).2] at hancestor
          cases hancestor

namespace Session

variable {trainer : Trainer} {s : Session}

/-- Whether the action, taken now, is a sound call of `optimizer.step()` or something else. -/
def SoundAction (trainer : Trainer) (s : Session) (action : Action) : Prop :=
  match s.phase, action with
  | .suspended window, .step allowed => SoundStep trainer.optimizer window s.harness allowed
  | _, _ => True

instance (trainer : Trainer) (s : Session) (action : Action) :
    Decidable (SoundAction trainer s action) := by
  unfold SoundAction
  split <;> infer_instance

/-- The runs measured in the epoch have ids of their own. -/
def FreshAction (s : Session) (action : Action) : Prop :=
  match action with
  | .epoch script =>
    let ids := (script.baselineRun.toList ++ script.first.run?.toList ++
      script.second.run?.toList).map ExperimentResult.experimentId
    ids.Nodup ∧ ∀ id ∈ ids, id ∉ s.store.index.map RunIndexRow.experimentId ∧
      id ∉ s.artifactOnly.map ExperimentResult.experimentId
  | _ => True

instance (s : Session) (action : Action) : Decidable (FreshAction s action) := by
  unfold FreshAction
  split <;> infer_instance

/-- The invariant of a session: a suspended epoch agrees with `HEAD`, and no superseded attempt is
in the index or about to be. -/
structure Consistent (s : Session) : Prop where
  window : ∀ window, s.phase = .suspended window → WindowAgrees window s.harness
  superseded : ∀ r ∈ s.artifactOnly, (∀ row ∈ s.store.index, row.experimentId ≠ r.experimentId) ∧
    ∀ window, s.phase = .suspended window → window.candidate.experimentId ≠ r.experimentId

/-- `HEAD` when the current epoch began. -/
def epochBaseline (s : Session) : Sha :=
  match s.phase with
  | .suspended window => window.baselineCommit
  | _ => s.harness.head

/-- A decision recorded against the epoch's baseline agrees with `HEAD`: it says promoted, and files
the run as a baseline, exactly when `HEAD` is at the candidate, a direct child of the epoch's
baseline; and otherwise, rejected or undecided for infra, exactly when `HEAD` is at that baseline. -/
structure Agrees (baselineCommit : Sha) (harness : Parameter) (row : RunIndexRow)
    (outcome : DecisionOutcome) : Prop where
  kind : outcome = .promoted ↔ row.kind = .baseline
  promoted : outcome = .promoted ↔ harness.head = row.gitCommitHash
  child : harness.repo.parents row.gitCommitHash = [baselineCommit] ∧
    row.parentCommitHash = some baselineCommit
  rejected : outcome = .rejected ∨ outcome = .invalidInfra ↔ harness.head = baselineCommit

/-- What an action adds to the index: rows whose decisions agree with `HEAD`.  Only resuming a
suspended epoch decides its candidate, and that candidate is the validated one. -/
structure Records (s s' : Session) (action : Action) : Prop where
  rows : ∃ rows, Appends s s' rows ∧
    (∀ row ∈ rows, ∀ outcome, row.verdict = some outcome →
      Agrees s.epochBaseline s'.harness row outcome ∧
        ∀ window, s.phase = .suspended window → row.gitCommitHash = window.candidateRef.commit) ∧
    ((∀ diagnoseRaises, action ≠ .resume diagnoseRaises) → ∀ row ∈ rows, ∀ outcome,
      row.verdict = some outcome → outcome = .invalidInfra ∧
        ∀ window, s.phase ≠ .suspended window ∧ s'.phase ≠ .suspended window)

theorem Records.of_index_eq {s' : Session} {action : Action} (h : s'.store = s.store) :
    Records s s' action :=
  ⟨[], by rw [Appends, h, List.append_nil], by simp, by simp⟩

theorem Appends.eq {s' : Session} {rows rows' : List RunIndexRow} (h : Appends s s' rows)
    (h' : Appends s s' rows') : rows = rows' :=
  List.append_cancel_left (h.symm.trans h')

/-- A row of an epoch that never reached a verdict agrees with `HEAD`. -/
theorem agrees_of_infraRow {repo : Repo} {head : Sha} {harness : Parameter} {row : RunIndexRow}
    {outcome : DecisionOutcome} (hrow : InfraRow repo head row) (hrepo : harness.repo = repo)
    (hhead : harness.head = head) (hverdict : row.verdict = some outcome) :
    Agrees head harness row outcome := by
  obtain ⟨hinfra, hkind, hparent, hparents⟩ := hrow (by rw [hverdict]; simp)
  rw [hverdict] at hinfra
  obtain rfl := Option.some_inj.mp hinfra
  refine ⟨iff_of_false (by decide) (by rw [hkind]; decide), iff_of_false (by decide) ?_,
    ⟨by rw [hrepo]; exact hparents, hparent⟩, iff_of_true (Or.inr rfl) hhead⟩
  rw [hhead]
  exact fun heq ↦ Repo.ne_of_parents hparents heq.symm

/-- What entering an epoch does to the records. -/
theorem records_of_stretch {script : EpochScript} {s' : Session} (hready : s.phase = .ready)
    (h : Stretch script s s')
    (hopened : ∀ window, s'.phase = .suspended window → Opened script s s' window) :
    Records s s' (.epoch script) := by
  obtain ⟨rows, happends, hrows⟩ := h.rows
  have hbaseline : s.epochBaseline = s.harness.head := by rw [epochBaseline, hready]
  refine ⟨rows, happends, fun row hrow outcome hverdict ↦ ⟨?_, ?_⟩, ?_⟩
  · rw [hbaseline]
    exact agrees_of_infraRow (hrows row hrow).1 rfl h.head hverdict
  · intro window hwindow
    rw [hready] at hwindow
    cases hwindow
  · intro _ row hrow outcome hverdict
    have hinfra := ((hrows row hrow).1 (by rw [hverdict]; simp)).1
    rw [hverdict] at hinfra
    refine ⟨Option.some_inj.mp hinfra, fun window ↦ ⟨by rw [hready]; simp, fun hwindow ↦ ?_⟩⟩
    obtain ⟨rows', happends', hnone⟩ := (hopened window hwindow).noDecision
    obtain rfl := Appends.eq happends happends'
    rw [hnone row hrow] at hverdict
    cases hverdict

/-- Entering an epoch keeps the session consistent: the window is new, and the ids are fresh. -/
theorem consistent_of_stretch {script : EpochScript} {s' : Session} (hconsistent : Consistent s)
    (hfresh : FreshAction s (.epoch script)) (h : Stretch script s s')
    (hopened : ∀ window, s'.phase = .suspended window → Opened script s s' window) :
    Consistent s' := by
  obtain ⟨hnodup, hnew⟩ := hfresh
  simp only [List.map_append, List.nodup_append, List.mem_append, List.mem_map,
    Option.mem_toList] at hnodup hnew
  obtain ⟨⟨-, -, hbf⟩, -, hs⟩ := hnodup
  refine ⟨fun window hwindow ↦ ?_, fun r hr ↦ ⟨fun row hrow ↦ ?_, fun window hwindow ↦ ?_⟩⟩
  · obtain ⟨hbaseline, hbase, hparents, -, -, happlied, -, -⟩ := hopened window hwindow
    refine ⟨hbase.trans hbaseline.symm, by rw [hparents, hbaseline], Or.inl ⟨?_, ?_⟩⟩
    · rw [h.head, hbaseline]
    · rw [happlied]
      simp
  · obtain ⟨rows, happends, hrows⟩ := h.rows
    rw [happends, List.mem_append] at hrow
    have hold : r ∈ s.artifactOnly ∨ script.first.run? = some r := by
      rcases h.artifactOnly with heq | heq
      · exact Or.inl (heq ▸ hr)
      · rw [heq, List.mem_append, Option.mem_toList] at hr
        exact hr
    rcases hold with hold | hfirst
    · rcases hrow with hrow | hrow
      · exact (hconsistent.superseded r hold).1 row hrow
      · intro heq
        rcases (hrows row hrow).2 with ⟨run, hrun, hid⟩ | ⟨run, hrun, hid⟩
        · exact (hnew run.experimentId (Or.inl (Or.inl ⟨run, hrun, rfl⟩))).2
            ⟨r, hold, by rw [← heq, hid]⟩
        · exact (hnew run.experimentId (Or.inr ⟨run, hrun, rfl⟩)).2 ⟨r, hold, by rw [← heq, hid]⟩
    · rcases hrow with hrow | hrow
      · exact fun heq ↦ (hnew r.experimentId (Or.inl (Or.inr ⟨r, hfirst, rfl⟩))).1 ⟨row, hrow, heq⟩
      · rcases (hrows row hrow).2 with ⟨run, hrun, hid⟩ | ⟨run, hrun, hid⟩
        · rw [hid]
          exact hbf _ ⟨run, hrun, rfl⟩ _ ⟨r, hfirst, rfl⟩
        · rw [hid]
          exact (hs _ (Or.inr ⟨r, hfirst, rfl⟩) _ ⟨run, hrun, rfl⟩).symm
  · rcases (hopened window hwindow).kept with ⟨heq, hfirst⟩ | ⟨heq, hsecond⟩
    · rw [heq] at hr
      exact fun hid ↦ (hnew _ (Or.inl (Or.inr ⟨_, hfirst, rfl⟩))).2 ⟨r, hr, hid.symm⟩
    · rw [heq, List.mem_append, Option.mem_toList] at hr
      rcases hr with hr | hr
      · exact fun hid ↦ (hnew _ (Or.inr ⟨_, hsecond, rfl⟩)).2 ⟨r, hr, hid.symm⟩
      · exact (hs _ (Or.inr ⟨r, hr, rfl⟩) _ ⟨_, hsecond, rfl⟩).symm

/-- Concluding an epoch that agrees with `HEAD` records a decision that agrees with `HEAD`. -/
theorem agrees_of_concluded {window : Window} {s' : Session} {row : RunIndexRow}
    {outcome : DecisionOutcome} (hagrees : WindowAgrees window s.harness)
    (hhead : s'.harness.head = s.harness.head) (hrepo : s'.harness.repo = s.harness.repo)
    (hgit : row.gitCommitHash = window.candidateRef.commit)
    (hparent : row.parentCommitHash = some window.candidateRef.baseCommit)
    (houtcome : outcome =
      if s.harness.applied = some window.candidateRef.commit then .promoted else .rejected)
    (hkind : row.kind = if outcome = .promoted then .baseline else .candidate) :
    Agrees window.baselineCommit s'.harness row outcome := by
  obtain ⟨hbase, hparents, hwindow⟩ := hagrees
  have hne := Repo.ne_of_parents hparents
  have hchild : s'.harness.repo.parents row.gitCommitHash = [window.baselineCommit] ∧
      row.parentCommitHash = some window.baselineCommit := by
    rw [hrepo, hgit, hparent, hbase]
    exact ⟨hparents, rfl⟩
  rcases hwindow with ⟨hat, happlied⟩ | ⟨hat, happlied⟩
  · rw [if_neg happlied] at houtcome
    subst houtcome
    refine ⟨iff_of_false (by decide) (by rw [hkind]; decide), iff_of_false (by decide) ?_, hchild,
      iff_of_true (Or.inl rfl) (hhead.trans hat)⟩
    rw [hhead, hat, hgit]
    exact hne.symm
  · rw [if_pos happlied] at houtcome
    subst houtcome
    refine ⟨iff_of_true rfl (by rw [hkind]; rfl), iff_of_true rfl ?_, hchild,
      iff_of_false (by decide) ?_⟩
    · rw [hhead, hat, hgit]
    · rw [hhead, hat]
      exact hne

/-- What a conclusion does to the session, however the generator goes on. -/
theorem concluded_spec {window : Window} {diagnoseRaises : Bool} {s' : Session}
    (hphase : s.phase = .suspended window) (hconsistent : Consistent s)
    (h : Concluded window s s') (hdone : ∀ window, s'.phase ≠ .suspended window) :
    Consistent s' ∧ Records s s' (.resume diagnoseRaises) := by
  have hbaseline : s.epochBaseline = window.baselineCommit := by rw [epochBaseline, hphase]
  have hnotin : ∀ w, s'.phase = .suspended w → False := fun w hw ↦ hdone w hw
  obtain ⟨hhead, hrepo, hartifact, hrows⟩ := h
  rcases hrows with hnone | ⟨row, outcome, happends, hid, hgit, hparent, hverdict, houtcome, hkind⟩
  · rw [Appends, List.append_nil] at hnone
    refine ⟨⟨fun w hw ↦ (hnotin w hw).elim, fun r hr ↦ ⟨?_, fun w hw ↦ (hnotin w hw).elim⟩⟩,
      ⟨[], by rw [Appends, hnone, List.append_nil], by simp, by simp⟩⟩
    rw [hnone]
    exact (hconsistent.superseded r (hartifact ▸ hr)).1
  · have hagrees := agrees_of_concluded (hconsistent.window window hphase) hhead hrepo hgit hparent
      houtcome hkind
    refine ⟨⟨fun w hw ↦ (hnotin w hw).elim, fun r hr ↦ ⟨?_, fun w hw ↦ (hnotin w hw).elim⟩⟩,
      ⟨[row], happends, ?_, fun hresume ↦ absurd rfl (hresume diagnoseRaises)⟩⟩
    · obtain ⟨hold, hwindow⟩ := hconsistent.superseded r (hartifact ▸ hr)
      intro row' hrow'
      rw [happends, List.mem_append, List.mem_singleton] at hrow'
      rcases hrow' with hrow' | rfl
      · exact hold row' hrow'
      · rw [hid]
        exact hwindow window hphase
    · intro row' hrow' outcome' hverdict'
      obtain rfl := List.mem_singleton.mp hrow'
      rw [hverdict] at hverdict'
      obtain rfl := Option.some_inj.mp hverdict'
      refine ⟨hbaseline ▸ hagrees, fun w hw ↦ ?_⟩
      rw [hphase] at hw
      cases hw
      exact hgit

theorem Stretch.finished {script : EpochScript} {s' : Session} {result : Except TrainerError Unit}
    (h : Stretch script s s') : Stretch script s { s' with phase := .finished result } :=
  ⟨h.head, h.artifactOnly, h.rows⟩

/-- **One action.**  A sound action keeps the session consistent, and what it records agrees with
`HEAD`. -/
theorem next_spec {action : Action} (hconsistent : Consistent s)
    (hsound : SoundAction trainer s action) (hfresh : FreshAction s action) :
    Consistent (s.next trainer action) ∧ Records s (s.next trainer action) action := by
  have hsame : Consistent s ∧ Records s s action := ⟨hconsistent, .of_index_eq rfl⟩
  cases hphase : s.phase with
  | ready =>
    cases action with
    | epoch script =>
      simp only [next, hphase]
      split
      · refine ⟨⟨fun w hw ↦ (by cases hw), fun r hr ↦ ?_⟩, .of_index_eq rfl⟩
        exact ⟨(hconsistent.superseded r hr).1, fun w hw ↦ by cases hw⟩
      · have hspec := startEpoch_spec trainer script (s := s)
        rw [advance]
        split
        · rename_i s' heq
          obtain ⟨hstretch, hopened⟩ := wp_ok hspec heq
          have hopened' : ∀ window, s'.phase = .suspended window → Opened script s s' window := by
            intro window hwindow
            rcases hopened with hready | ⟨window', hwindow', hopened⟩
            · rw [hready] at hwindow
              cases hwindow
            · rw [hwindow'] at hwindow
              cases hwindow
              exact hopened
          exact ⟨consistent_of_stretch hconsistent hfresh hstretch hopened',
            records_of_stretch hphase hstretch hopened'⟩
        · rename_i error s' heq
          have herror := wp_error hspec heq
          have hstretch : Stretch script s { s' with phase := .finished (.error error) } :=
            Stretch.finished herror
          have hdone : ∀ window,
              Phase.finished (.error error) = Phase.suspended window → False := by simp
          exact ⟨consistent_of_stretch hconsistent hfresh hstretch fun w hw ↦ (hdone w hw).elim,
            records_of_stretch hphase hstretch fun w hw ↦ (hdone w hw).elim⟩
    | _ => simpa only [next, hphase] using hsame
  | suspended window =>
    have hagrees := hconsistent.window window hphase
    -- a user's call changes the harness only
    have hcall : ∀ call : Except TrainerError Parameter,
        (∀ harness, call = .ok harness → WindowAgrees window harness) →
        Consistent (s.userCall call) ∧ Records s (s.userCall call) action := by
      intro call hok
      cases call with
      | error e => exact hsame
      | ok harness =>
        refine ⟨⟨fun w hw ↦ ?_, hconsistent.superseded⟩, .of_index_eq rfl⟩
        have hw' : s.phase = .suspended w := hw
        rw [hphase] at hw'
        cases hw'
        exact hok harness rfl
    cases action with
    | epoch script => simpa only [next, hphase] using hsame
    | backward index =>
      simp only [next, hphase]
      split
      · refine hcall _ fun harness hok ↦ ?_
        rw [Loss.backward] at hok
        split at hok
        · cases hok
          exact ⟨hagrees.baseCommit, hagrees.parents, hagrees.head⟩
        · cases hok
      · exact hsame
    | step allowed =>
      simp only [next, hphase]
      refine hcall _ fun harness hok ↦ ?_
      simp only [SoundAction, hphase] at hsound
      exact hagrees.step hsound hok
    | resume diagnoseRaises =>
      simp only [next, hphase]
      have hspec := resumeEpoch_spec trainer window diagnoseRaises (s := s)
      rw [advance]
      split
      · rename_i s' heq
        obtain ⟨hconcluded, hready⟩ := wp_ok hspec heq
        exact concluded_spec hphase hconsistent hconcluded fun w hw ↦ by rw [hready] at hw; cases hw
      · rename_i error s' heq
        obtain ⟨hhead, hrepo, hartifact, hrows⟩ := wp_error hspec heq
        exact concluded_spec hphase hconsistent ⟨hhead, hrepo, hartifact, hrows⟩
          fun w hw ↦ by cases hw
    | abandon =>
      simp only [next, hphase]
      refine ⟨⟨fun w hw ↦ (by cases hw), fun r hr ↦ ?_⟩, .of_index_eq rfl⟩
      exact ⟨(hconsistent.superseded r hr).1, fun w hw ↦ by cases hw⟩
  | finished result => cases action <;> simpa only [next, hphase] using hsame

/-! ## Runs -/

/-- Every action of the run is sound and measures fresh runs. -/
def SoundRun (trainer : Trainer) : Session → List Action → Prop
  | _, [] => True
  | s, action :: actions =>
    SoundAction trainer s action ∧ FreshAction s action ∧
      SoundRun trainer (s.next trainer action) actions

instance decidableSoundRun (trainer : Trainer) :
    (s : Session) → (actions : List Action) → Decidable (SoundRun trainer s actions)
  | _, [] => .isTrue trivial
  | s, action :: actions =>
    have := decidableSoundRun trainer (s.next trainer action) actions
    inferInstanceAs (Decidable (_ ∧ _ ∧ _))

theorem run_cons (action : Action) (actions : List Action) :
    s.run trainer (action :: actions) = (s.next trainer action).run trainer actions := rfl

theorem run_append (actions actions' : List Action) :
    s.run trainer (actions ++ actions') = (s.run trainer actions).run trainer actions' :=
  List.foldl_append ..

/-- A run preserves what one action preserves. -/
theorem consistent_run {actions : List Action} (hconsistent : Consistent s)
    (hsound : SoundRun trainer s actions) : Consistent (s.run trainer actions) := by
  induction actions generalizing s with
  | nil => exact hconsistent
  | cons action actions ih =>
    obtain ⟨haction, hfresh, hrest⟩ := hsound
    exact ih (next_spec hconsistent haction hfresh).1 hrest

theorem records_run {before : List Action} {action : Action} {after : List Action}
    (hconsistent : Consistent s) (hsound : SoundRun trainer s (before ++ action :: after)) :
    Records (s.run trainer before) (s.run trainer (before ++ [action])) action := by
  induction before generalizing s with
  | nil =>
    obtain ⟨haction, hfresh, -⟩ := hsound
    exact (next_spec hconsistent haction hfresh).2
  | cons first before ih =>
    obtain ⟨haction, hfresh, hrest⟩ := hsound
    exact ih (next_spec hconsistent haction hfresh).1 hrest

/-- A finished session does nothing any more. -/
theorem run_finished {result : Except TrainerError Unit} (h : s.phase = .finished result)
    (actions : List Action) : s.run trainer actions = s := by
  induction actions with
  | nil => rfl
  | cons action actions ih =>
    have hnext : s.next trainer action = s := by cases action <;> simp only [next, h]
    rw [run_cons, hnext, ih]

/-- **Training outcome and `HEAD` agree.**  In every run of a session whose calls of
`optimizer.step()` are all sound: every decision an action records agrees with `HEAD`, and decides
the validated candidate of the epoch only when the epoch is resumed; after an epoch is abandoned
nothing is recorded any more; and no superseded first attempt has an index row. -/
theorem training_outcome_agrees {actions : List Action} (hready : s.phase = .ready)
    (hartifact : s.artifactOnly = []) (hsound : SoundRun trainer s actions) :
    (∀ before action after, actions = before ++ action :: after →
      Records (s.run trainer before) (s.run trainer (before ++ [action])) action) ∧
    (∀ before after window, actions = before ++ .abandon :: after →
      (s.run trainer before).phase = .suspended window →
      (s.run trainer actions).store = (s.run trainer before).store) ∧
    ∀ r ∈ (s.run trainer actions).artifactOnly, ∀ row ∈ (s.run trainer actions).store.index,
      row.experimentId ≠ r.experimentId := by
  have hconsistent : Consistent s :=
    ⟨fun w hw ↦ (by rw [hready] at hw; cases hw), fun r hr ↦ (by rw [hartifact] at hr; cases hr)⟩
  refine ⟨?_, ?_, fun r hr ↦ ((consistent_run hconsistent hsound).superseded r hr).1⟩
  · rintro before action after rfl
    exact records_run hconsistent hsound
  · rintro before after window rfl hwindow
    rw [run_append, run_cons]
    have hclosed : (s.run trainer before).next trainer .abandon =
        { s.run trainer before with phase := .finished (.ok ()) } := by
      simp only [next, hwindow]
    rw [hclosed, run_finished rfl]

/-! ## A stale verdict -/

/-- A run of two tasks that solved some of them. -/
def staleMeasurement (experimentId : String) (commit : Sha) (solved : List TaskId) :
    ExperimentResult :=
  { sampleRun experimentId (["t", "u"].map fun task ↦
      sampleRollout task (if task ∈ solved then .solved else .verifiedRejected)) with
    gitCommitHash := commit
    finishedAt := some 1 }

/-- The harness with its one file. -/
def staleTree (blob : Sha) : Tree where
  entries := AList.singleton (encode "harness.py") ⟨.regular, blob⟩
  path_ne path h := by
    obtain rfl := List.mem_singleton.mp h
    exact (by decide : encode "harness.py" ≠ [])

/-- One epoch: the estimator rewrites the harness, and the first measurement succeeds. -/
def staleEpoch (baseline candidate : ExperimentResult) : EpochScript where
  identity := some baseline.measurementIdentity
  baselineRun := some baseline
  certify baseline := some ({ baseline with determinismCertification := some ∅ }, [])
  worktree := some (staleTree candidate.gitCommitHash)
  commit := candidate.gitCommitHash
  suite := none
  first := .measured candidate
  second := .measurementError none

def staleTrainer : Trainer where
  git := exactRenames
  trainingTarget := { module := "harness" }
  criterion := StrictPareto.criterion []
  optimizer := greedyMonotonic
  hexdigest := id

def staleSession : Session where
  harness := {
    repo := {
      commit? := fun sha ↦ if sha = "b" then some ⟨[], staleTree "b"⟩ else none
      rank := fun _ ↦ 0
      parent_known := by
        intro sha commit parent h hparent
        split at h
        · cases h
          cases hparent
        · cases h
      parent_older := by
        intro sha commit parent h hparent
        split at h
        · cases h
          cases hparent
        · cases h }
    head := "b" }
  store := {}
  remaining := 2

/-- A first epoch that promotes. -/
def staleFirst : List Action :=
  [.epoch (staleEpoch (staleMeasurement "r0" "b" []) (staleMeasurement "r1" "c1" ["t"])),
    .backward 0, .step true, .resume false]

/-- A second one that promotes too, and then applies the verdict of the first once more. -/
def staleSecond : List Action :=
  [.epoch (staleEpoch (staleMeasurement "r1" "c1" ["t"]) (staleMeasurement "r2" "c2" ["t", "u"])),
    .backward 1, .step true, .backward 0, .step true, .backward 1]

/-- **A stale verdict.**  The merge finds `HEAD` already past the first candidate and leaves it at the
second, but what was applied is now the first: the second is recorded as rejected. -/
theorem training_outcome_stale :
    ((staleSession.run staleTrainer (staleFirst ++ staleSecond ++ [.resume false])).harness.head =
        "c2" ∧
      (staleSession.run staleTrainer (staleFirst ++ staleSecond ++ [.resume false])).store.index.map
        (fun row ↦ (row.gitCommitHash, row.kind, row.verdict)) =
        [("b", .baseline, none), ("c1", .baseline, some .promoted),
          ("c2", .candidate, some .rejected)]) ∧
    ¬ Records (staleSession.run staleTrainer (staleFirst ++ staleSecond))
      (staleSession.run staleTrainer (staleFirst ++ staleSecond ++ [.resume false]))
      (.resume false) := by
  refine ⟨by decide +kernel, fun hrecords ↦ ?_⟩
  obtain ⟨rows, happends, hrows, -⟩ := hrecords
  have hdrop : rows = (staleSession.run staleTrainer
      (staleFirst ++ staleSecond ++ [.resume false])).store.index.drop 2 := by
    rw [happends, List.drop_left' (by decide +kernel)]
  have hrow : ∃ row ∈ rows, row.verdict = some .rejected ∧ (staleSession.run staleTrainer
      (staleFirst ++ staleSecond ++ [.resume false])).harness.head = row.gitCommitHash := by
    rw [hdrop]
    decide +kernel
  obtain ⟨row, hmem, hverdict, hhead⟩ := hrow
  cases (hrows row hmem _ hverdict).1.promoted.mpr hhead

/-- The first epoch is sound, and its promotion is recorded. -/
theorem training_outcome_agrees_promoted :
    Records (staleSession.run staleTrainer (staleFirst.take 3))
      (staleSession.run staleTrainer staleFirst) (.resume false) := by
  have hsound : SoundRun staleTrainer staleSession staleFirst := by decide +kernel
  have hready : staleSession.phase = .ready := rfl
  have hartifact : staleSession.artifactOnly = [] := rfl
  exact (training_outcome_agrees hready hartifact hsound).1 (staleFirst.take 3) (.resume false) []
    rfl

end Session

end HarnessTraining
