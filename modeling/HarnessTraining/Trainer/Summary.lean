import HarnessTraining.Trainer.Outcome
import Mathlib.Data.List.DropRight

/-!
# The summary of a session

`StdoutLogger.loop_finished` of `src/trainer/logger.py`, and the books that `Trainer._epochs` keeps for
it and for its circuit breaker.

* `Session.ended` — the epoch that an action ends, as `_epoch` returns it;
* `Booked` — the books of a session agree with the epochs that have ended, one lemma for an action and
  one for a run;
* `accounted_iff` — the counts of the summary add up, unless an epoch ended with a decision that is
  neither a promotion nor a rejection; the breaker trips at the first two skips in a row.
-/

set_option autoImplicit false

namespace HarnessTraining

open StateExcept

/-! ## The tally -/

/-- The counts of the last line. -/
structure Tally where
  promoted : ℕ
  rejected : ℕ
  skipped : ℤ
  deriving DecidableEq

/-- What the line says of them. -/
def Tally.outcomes (tally : Tally) : String :=
  s!"{tally.promoted} promoted · {tally.rejected} rejected" ++
    if tally.skipped = 0 then "" else s!" · {tally.skipped} skipped"

/-- `StdoutLogger.loop_finished`; without a baseline the line has no counts. -/
def loopFinished (epochsRun : ℕ) (decisions : List ResultDecision) (baseline : Option ExperimentResult) :
    Option Tally :=
  baseline.map fun _ ↦ {
    promoted := decisions.countP fun decision ↦ decision.outcome = .promoted
    rejected := decisions.countP fun decision ↦ decision.outcome = .rejected
    skipped := epochsRun - decisions.length }

/-! ## Epochs that ended -/

/-- What `_epoch` returns. -/
structure EpochEnd where
  skipCause : Option String
  finalized : Option ExperimentResult

namespace EpochEnd

def isSkipped (epoch : EpochEnd) : Bool := epoch.skipCause.isSome

def decision (epoch : EpochEnd) : Option ResultDecision := epoch.finalized.bind ExperimentResult.decision

end EpochEnd

/-- Two epochs in a row have a skip cause. -/
def SkipPair (epochs : List EpochEnd) : Prop :=
  ∃ before epoch epoch' after, epochs = before ++ epoch :: epoch' :: after ∧
    epoch.isSkipped = true ∧ epoch'.isSkipped = true

theorem not_skipPair_iff {epochs : List EpochEnd} : ¬SkipPair epochs ↔
    epochs.IsChain fun epoch epoch' ↦ ¬(epoch.isSkipped = true ∧ epoch'.isSkipped = true) := by
  rw [List.isChain_iff_forall_rel_of_append_cons_cons]
  constructor
  · exact fun h epoch epoch' before after heq hskipped ↦ h ⟨before, epoch, epoch', after, heq, hskipped⟩
  · rintro h ⟨before, epoch, epoch', after, heq, hskipped⟩
    exact h heq hskipped

/-- After a calm run, a new pair is at its end. -/
theorem skipPair_snoc_iff {epochs : List EpochEnd} {epoch : EpochEnd} (hcalm : ¬SkipPair epochs) :
    SkipPair (epochs ++ [epoch]) ↔
      2 ≤ ((epochs ++ [epoch]).rtakeWhile EpochEnd.isSkipped).length := by
  have hchain := not_skipPair_iff.mp hcalm
  rw [← not_iff_not, not_skipPair_iff, List.isChain_append, and_iff_right hchain,
    and_iff_right (List.isChain_singleton _), List.rtakeWhile_concat]
  rcases List.eq_nil_or_concat epochs with rfl | ⟨before, last, rfl⟩
  · by_cases hskipped : epoch.isSkipped = true <;> simp [hskipped]
  · rw [List.concat_eq_append, List.rtakeWhile_concat]
    by_cases hskipped : epoch.isSkipped = true <;> by_cases hlast : last.isSkipped = true <;>
      simp [hskipped, hlast]

namespace Trainer

variable {trainer : Trainer} {s : Session}

/-! ## What the books leave alone -/

/-- The books of `_epochs` are as they were, up to a newer baseline. -/
structure SameBooks (s s' : Session) : Prop where
  remaining : s'.remaining = s.remaining
  decisions : s'.decisions = s.decisions
  consecutiveSkipCauses : s'.consecutiveSkipCauses = s.consecutiveSkipCauses
  finalBaseline : s.finalBaseline ≠ none → s'.finalBaseline ≠ none

theorem SameBooks.refl (s : Session) : SameBooks s s := ⟨rfl, rfl, rfl, id⟩

theorem SameBooks.trans {a b c : Session} (h : SameBooks a b) (h' : SameBooks b c) : SameBooks a c :=
  ⟨h'.remaining.trans h.remaining, h'.decisions.trans h.decisions,
    h'.consecutiveSkipCauses.trans h.consecutiveSkipCauses, h'.finalBaseline ∘ h.finalBaseline⟩

/-- The exception is not that of the circuit breaker. -/
def NoTrip (error : TrainerError) : Prop := ∀ message, error ≠ .circuitBreakerTripped message

/-- The program keeps no books and trips no breaker. -/
def Unbooked {α : Type} (m : TrainerM α) : Prop :=
  ∀ s, wp m (fun _ s' ↦ SameBooks s s') (fun error s' ↦ SameBooks s s' ∧ NoTrip error) s

section Unbooked

variable {α β : Type} {m : TrainerM α} {f : α → TrainerM β}

theorem Unbooked.pure (a : α) : Unbooked (pure a) := SameBooks.refl

theorem Unbooked.throw {error : TrainerError} (h : NoTrip error) : Unbooked (throw error : TrainerM α) :=
  fun s ↦ ⟨.refl s, h⟩

theorem Unbooked.get : Unbooked get := SameBooks.refl

theorem Unbooked.modify {g : Session → Session} (h : ∀ s, SameBooks s (g s)) : Unbooked (modify g) := h

theorem Unbooked.bind (hm : Unbooked m) (hf : ∀ a, Unbooked (f a)) : Unbooked (m >>= f) := by
  intro s
  rw [wp_bind]
  refine wp_mono (hm s) (fun a s₁ h ↦ ?_) fun _ _ h ↦ h
  exact wp_mono (hf a s₁) (fun _ _ h' ↦ h.trans h') fun _ _ h' ↦ ⟨h.trans h'.1, h'.2⟩

theorem Unbooked.orRaise (answer : Option α) (message : String) : Unbooked (orRaise answer message) := by
  cases answer with
  | some a => exact .pure a
  | none => exact .throw fun _ ↦ by rintro ⟨⟩

theorem Unbooked.liftExcept {result : Except TrainerError α}
    (h : ∀ error, result = .error error → NoTrip error) : Unbooked (liftExcept result) := by
  cases result with
  | ok a => exact .pure a
  | error error => exact .throw (h error rfl)

end Unbooked

/-! ## Stretches of the generator -/

theorem unbooked_record (result : ExperimentResult) (kind : RunKind) (parent : Option Sha)
    (baselineId : Option String) (decision : Option ResultDecision) :
    Unbooked (trainer.record result kind parent baselineId decision) := by
  intro s
  rw [record, wp_bind, wp_get]
  split
  · exact ⟨.refl s, fun _ ↦ by rintro ⟨⟩⟩
  · exact ⟨rfl, rfl, rfl, id⟩

theorem unbooked_findBaseline (baselineCommit : Sha) (script : EpochScript) :
    Unbooked (trainer.findBaseline baselineCommit script) := by
  refine .bind (.orRaise _ _) fun identity ↦ .bind .get fun session ↦ ?_
  split
  · exact .throw fun _ ↦ by rintro ⟨⟩
  · exact .pure _
  · exact .bind (.orRaise _ _) fun measured ↦ unbooked_record _ _ _ _ _

theorem unbooked_prepareBaseline (baselineCommit : Sha) (script : EpochScript) :
    Unbooked (trainer.prepareBaseline baselineCommit script) :=
  .bind (unbooked_findBaseline _ _) fun _ ↦ .bind (.orRaise _ _) fun ⟨_, _⟩ ↦
    .bind (.modify fun _ ↦ ⟨rfl, rfl, rfl, fun _ ↦ Option.some_ne_none _⟩) fun _ ↦ .pure _

theorem noTrip_captureCandidate {git : RenameDetection} {repo : Repo} {baseCommit commit : Sha}
    {worktree : Tree} {error : TrainerError}
    (h : captureCandidate git repo baseCommit worktree commit = .error error) : NoTrip error := by
  rw [captureCandidate] at h
  split at h
  · cases h
    exact fun _ ↦ by rintro ⟨⟩
  · split at h
    · cases h
      exact fun _ ↦ by rintro ⟨⟩
    · cases h

theorem noTrip_validateCandidate {git : RenameDetection} {repo : Repo} {candidate : Candidate}
    {config : TrainingTargetConfig} {error : TrainerError}
    (h : validateCandidate git repo candidate config = .error error) : NoTrip error := by
  rintro message rfl
  rw [validateCandidate] at h
  split at h
  · cases h
  · split at h
    · cases h
    · split at h
      · cases h
      · rw [validateTrees] at h
        split at h
        · cases h
        · split at h <;> cases h

theorem unbooked_propose (baselineCommit : Sha) (script : EpochScript) :
    Unbooked (trainer.propose baselineCommit script) := by
  intro s
  have hforeign (message : String) : NoTrip (.foreign message) := fun _ ↦ by rintro ⟨⟩
  simp only [propose, wp_bind, wp_orRaise, wp_get, wp_liftExcept, wp_set]
  refine ⟨fun worktree _ ↦ ⟨?_, fun _ h ↦ ⟨.refl s, noTrip_captureCandidate h⟩⟩,
    fun _ ↦ ⟨.refl s, hforeign _⟩⟩
  rintro ⟨repo, candidateRef⟩ _
  refine ⟨fun _ _ ↦ ?_, fun _ h ↦ ⟨⟨rfl, rfl, rfl, id⟩, noTrip_validateCandidate h⟩⟩
  split
  · exact ⟨⟨rfl, rfl, rfl, id⟩, fun _ ↦ by rintro ⟨⟩⟩
  · exact ⟨rfl, rfl, rfl, id⟩

theorem noTrip_judgeAttempt {baseline : ExperimentResult} {candidateRef : Candidate} {attempt : Attempt}
    {error : TrainerError} (h : trainer.judgeAttempt baseline candidateRef attempt = .error error) :
    NoTrip error := by
  rintro message rfl
  cases attempt with
  | measurementError result => cases h
  | measured candidate =>
    rw [judgeAttempt] at h
    split at h
    · cases h
    · split at h <;> cases h

theorem unbooked_measureCandidate (baseline : ExperimentResult) (candidateRef : Candidate)
    (script : EpochScript) : Unbooked (trainer.measureCandidate baseline candidateRef script) := by
  refine .bind (.liftExcept fun _ ↦ noTrip_judgeAttempt) fun judgement ↦ ?_
  split
  · exact .pure _
  · exact .bind (.modify fun _ ↦ ⟨rfl, rfl, rfl, id⟩) fun _ ↦ .liftExcept fun _ ↦ noTrip_judgeAttempt

theorem unbooked_judgeCandidate (baselineCommit : Sha) (baseline : ExperimentResult)
    (candidateRef : Candidate) (script : EpochScript) :
    Unbooked (trainer.judgeCandidate baselineCommit baseline candidateRef script) := by
  have hmeasure : Unbooked (trainer.measureCandidate baseline candidateRef script) :=
    unbooked_measureCandidate baseline candidateRef script
  intro s
  simp only [judgeCandidate, wp_bind, wp_ite, wp_throw]
  refine ⟨fun _ ↦ ⟨.refl s, fun _ ↦ by rintro ⟨⟩⟩, fun _ ↦ ?_⟩
  refine wp_mono (hmeasure s) (fun judgement s₁ h ↦ ?_) fun _ _ h ↦ h
  split
  · exact h.trans ⟨rfl, rfl, rfl, id⟩
  · exact h
  · rw [wp_bind]
    refine wp_mono (unbooked_record _ _ _ _ _ s₁) (fun _ _ h' ↦ h.trans h') fun _ _ h' ↦ ⟨h.trans h'.1, h'.2⟩

theorem unbooked_epoch (baselineCommit : Sha) (baseline : ExperimentResult) (script : EpochScript) :
    Unbooked (trainer.epoch baselineCommit baseline script) := by
  intro s
  simp only [epoch, wp_bind, wp_tryCatch, wp_map]
  refine wp_mono (unbooked_propose baselineCommit script s) (fun candidateRef s₁ h ↦ ?_)
    fun error s₁ h ↦ ?_
  · exact wp_mono (unbooked_judgeCandidate baselineCommit baseline candidateRef script s₁)
      (fun _ _ h' ↦ h.trans h') fun _ _ h' ↦ ⟨h.trans h'.1, h'.2⟩
  · cases error with
    | candidateValidation error => exact h.1
    | _ => exact h

theorem unbooked_conclude (window : Window) (diagnoseRaises : Bool) :
    Unbooked (trainer.conclude window diagnoseRaises) := by
  intro s
  have hruntime (message : String) : SameBooks s s ∧ NoTrip (.runtimeError message) :=
    ⟨.refl s, fun _ ↦ by rintro ⟨⟩⟩
  simp only [conclude, wp_bind, wp_get]
  split
  · exact hruntime _
  · rename_i loss hgrad
    simp only [wp_bind, wp_ite, wp_throw, wp_pure, wp_liftExcept, wp_modify]
    refine ⟨fun _ ↦ hruntime _, fun _ ↦ ⟨fun _ ↦ hruntime _, fun _ ↦ ⟨fun _ ↦ hruntime _, fun _ ↦
      ⟨fun promoted _ ↦ ?_, fun error h ↦ ⟨.refl s, ?_⟩⟩⟩⟩⟩
    · refine wp_mono (unbooked_record _ _ _ _ _ s) (fun _ s₁ h ↦ ?_) fun _ _ h ↦ h
      have hclosed : SameBooks s
          { s₁ with harness := { s₁.harness with grad := none, applied := none } } :=
        h.trans ⟨rfl, rfl, rfl, id⟩
      exact ⟨fun _ ↦ ⟨hclosed, fun _ ↦ by rintro ⟨⟩⟩, fun _ ↦ hclosed⟩
    · rw [Loss.promoted] at h
      split at h
      · cases h
        exact fun _ ↦ by rintro ⟨⟩
      · cases h

/-- One epoch of `_epochs`, up to the `yield` or the return of `_epoch`. -/
def untilYield (trainer : Trainer) (baselineCommit : Sha) (script : EpochScript) : TrainerM Turn := do
  let baseline ← trainer.prepareBaseline baselineCommit script
  trainer.epoch baselineCommit baseline script

theorem untilYield_spec (baselineCommit : Sha) (script : EpochScript) :
    wp (trainer.untilYield baselineCommit script) (fun _ s' ↦ SameBooks s s' ∧ s'.finalBaseline ≠ none)
      (fun error s' ↦ SameBooks s s' ∧ NoTrip error) s := by
  rw [untilYield, wp_bind]
  have hfound : wp (trainer.prepareBaseline baselineCommit script)
      (fun _ s' ↦ s'.finalBaseline ≠ none) (fun _ _ ↦ True) s := by
    simp only [prepareBaseline, wp_bind, wp_orRaise, wp_modify, wp_pure]
    exact wp_mono (unbooked_findBaseline baselineCommit script s)
      (fun _ _ _ ↦ ⟨fun _ _ ↦ Option.some_ne_none _, fun _ ↦ trivial⟩) fun _ _ _ ↦ trivial
  refine wp_mono (wp_and (unbooked_prepareBaseline baselineCommit script s) hfound) ?_ fun _ _ h ↦ h.1
  rintro baseline s₁ ⟨h, hsome⟩
  exact wp_mono (unbooked_epoch baselineCommit baseline script s₁)
    (fun _ _ h' ↦ ⟨h.trans h', h'.finalBaseline hsome⟩) fun _ _ h' ↦ ⟨h.trans h'.1, h'.2⟩

theorem wp_startEpoch {script : EpochScript} {Q : Unit → Session → Prop}
    {E : TrainerError → Session → Prop} :
    wp (trainer.startEpoch script) Q E s ↔
      wp (trainer.untilYield s.harness.head script) (fun turn s₁ ↦ match turn with
        | .skipped cause finalized => wp (finishEpoch (some cause) finalized) Q E s₁
        | .yielded window _ => Q () { s₁ with phase := .suspended window }) E s := by
  simp only [startEpoch, untilYield, wp_bind, wp_get]
  refine iff_of_eq (congrArg (fun post ↦ wp _ post E s) (funext₂ fun baseline s₁ ↦ ?_))
  refine congrArg (fun post ↦ wp _ post E s₁) (funext₂ fun turn s₂ ↦ ?_)
  cases turn with
  | skipped cause finalized => rfl
  | yielded window loss => rfl

end Trainer

/-! ## The books -/

namespace Session

open Trainer

variable {trainer : Trainer} {s : Session} {n : ℕ} {epochs : List EpochEnd}

/-- The epoch that an action ends. -/
def ended (trainer : Trainer) (s : Session) (action : Action) : Option EpochEnd :=
  match s.phase, action with
  | .ready, .epoch script =>
    if s.remaining = 0 then none
    else
      match (exec (trainer.untilYield s.harness.head script) s).1 with
      | .ok (.skipped cause finalized) => some ⟨some cause, finalized⟩
      | _ => none
  | .suspended window, .resume diagnoseRaises =>
    match (exec (trainer.conclude window diagnoseRaises) s).1 with
    | .ok candidate => some ⟨none, some candidate⟩
    | .error _ => none
  | _, _ => none

/-- The epochs that a run ends. -/
def epochEnds (trainer : Trainer) : Session → List Action → List EpochEnd
  | _, [] => []
  | s, action :: actions => (s.ended trainer action).toList ++ epochEnds trainer (s.next trainer action) actions

/-- The breaker ended the session. -/
def Tripped (s : Session) : Prop := ∃ message, s.phase = .finished (.error (.circuitBreakerTripped message))

/-- The books of a session of `n` epochs agree with the epochs that have ended. -/
structure Booked (n : ℕ) (s : Session) (epochs : List EpochEnd) : Prop where
  remaining : s.remaining + epochs.length = n
  decisions : s.decisions = epochs.filterMap EpochEnd.decision
  causes : s.consecutiveSkipCauses.map some =
    (epochs.rtakeWhile EpochEnd.isSkipped).map EpochEnd.skipCause
  finalBaseline : epochs ≠ [] → s.finalBaseline ≠ none
  calm : ¬SkipPair epochs.dropLast
  tripped : s.Tripped ↔ SkipPair epochs
  suspended : ∀ window, s.phase = .suspended window → s.remaining ≠ 0 ∧ s.finalBaseline ≠ none

/-- Until an epoch ends, the books stay. -/
theorem Booked.congr {s' : Session} (h : Booked n s epochs) (hbooks : SameBooks s s')
    (hcalm : ¬SkipPair epochs) (htripped : ¬s'.Tripped)
    (hsuspended : ∀ window, s'.phase = .suspended window → s.remaining ≠ 0 ∧ s'.finalBaseline ≠ none) :
    Booked n s' epochs where
  remaining := by rw [hbooks.remaining, h.remaining]
  decisions := by rw [hbooks.decisions, h.decisions]
  causes := by rw [hbooks.consecutiveSkipCauses, h.causes]
  finalBaseline := hbooks.finalBaseline ∘ h.finalBaseline
  calm := h.calm
  tripped := iff_of_false htripped hcalm
  suspended window hwindow := by rw [hbooks.remaining]; exact hsuspended window hwindow

/-- The consecutive skip causes after an epoch. -/
def causesAfter (s : Session) : Option String → List String
  | none => []
  | some cause => s.consecutiveSkipCauses ++ [cause]

/-- The final baseline after an epoch. -/
def baselineAfter (s : Session) : Option ExperimentResult → Option ExperimentResult
  | some run => if run.kind = some .baseline then some run else s.finalBaseline
  | none => s.finalBaseline

/-- An epoch ends. -/
theorem Booked.snoc {s' : Session} {epoch : EpochEnd} (h : Booked n s epochs) (hcalm : ¬SkipPair epochs)
    (hopen : s.remaining ≠ 0) (hremaining : s'.remaining = s.remaining - 1)
    (hdecisions : s'.decisions = s.decisions ++ epoch.decision.toList)
    (hcauses : s'.consecutiveSkipCauses = s.causesAfter epoch.skipCause)
    (hbaseline : s'.finalBaseline ≠ none)
    (htripped : s'.Tripped ↔ maxConsecutiveSkips ≤ s'.consecutiveSkipCauses.length)
    (hsuspended : ∀ window, s'.phase ≠ .suspended window) : Booked n s' (epochs ++ [epoch]) := by
  have hmap : s'.consecutiveSkipCauses.map some =
      ((epochs ++ [epoch]).rtakeWhile EpochEnd.isSkipped).map EpochEnd.skipCause := by
    rw [hcauses, List.rtakeWhile_concat, EpochEnd.isSkipped]
    cases hcause : epoch.skipCause with
    | none => rfl
    | some cause => simp [causesAfter, h.causes, hcause]
  refine ⟨?_, ?_, hmap, fun _ ↦ hbaseline, ?_, ?_, fun window hwindow ↦ absurd hwindow (hsuspended window)⟩
  · rw [hremaining, List.length_append, List.length_singleton]
    have hcount := h.remaining
    omega
  · rw [hdecisions, h.decisions, List.filterMap_append]
    cases hdecision : epoch.decision <;> simp [hdecision]
  · rwa [List.dropLast_concat]
  · have hlength := congrArg List.length hmap
    rw [List.length_map, List.length_map] at hlength
    rw [htripped, skipPair_snoc_iff hcalm, hlength]
    exact Iff.rfl

theorem advance_of_wp {program : TrainerM Unit} (P : Session → Prop)
    (h : wp program (fun _ s' ↦ P s') (fun error s' ↦ P { s' with phase := .finished (.error error) }) s) :
    P (s.advance program) := by
  obtain ⟨hok, herror⟩ := wp_iff.mp h
  rw [advance]
  split
  · next s' hexec => exact hok () s' hexec
  · next error s' hexec => exact herror error s' hexec

/-- What `_epochs` does after an epoch is an entry in its books. -/
theorem finishEpoch_booked {s₁ : Session} {epoch : EpochEnd} (h : Booked n s epochs)
    (hcalm : ¬SkipPair epochs) (hopen : s.remaining ≠ 0) (hbooks : SameBooks s s₁)
    (hbaseline : s₁.finalBaseline ≠ none) :
    wp (finishEpoch epoch.skipCause epoch.finalized) (fun _ s' ↦ Booked n s' (epochs ++ [epoch]))
      (fun error s' ↦ Booked n { s' with phase := .finished (.error error) } (epochs ++ [epoch])) s₁ := by
  have hfound : s₁.baselineAfter epoch.finalized ≠ none := by
    rw [baselineAfter.eq_def]
    split
    · split
      · exact Option.some_ne_none _
      · exact hbaseline
    · exact hbaseline
  have hcauses : s₁.causesAfter epoch.skipCause = s.causesAfter epoch.skipCause := by
    rw [causesAfter.eq_def, hbooks.consecutiveSkipCauses, causesAfter.eq_def]
  simp only [finishEpoch, wp_bind, wp_modify, wp_get, wp_ite, wp_throw, wp_pure]
  constructor
  · intro hlong
    refine h.snoc hcalm hopen (by rw [hbooks.remaining]) (by rw [hbooks.decisions]; rfl) hcauses hfound
      (iff_of_true ⟨_, rfl⟩ hlong) fun _ ↦ by rintro ⟨⟩
  · intro hshort
    refine h.snoc hcalm hopen (by rw [hbooks.remaining]) (by rw [hbooks.decisions]; rfl) hcauses hfound
      (iff_of_false ?_ hshort) fun _ ↦ by rintro ⟨⟩
    rintro ⟨_, ⟨⟩⟩

/-- The generator runs into the next epoch. -/
theorem startEpoch_booked {script : EpochScript} (h : Booked n s epochs) (hphase : s.phase = .ready)
    (hcalm : ¬SkipPair epochs) (hopen : s.remaining ≠ 0) :
    Booked n (s.advance (trainer.startEpoch script)) (epochs ++ (s.ended trainer (.epoch script)).toList) := by
  simp only [ended, hphase, if_neg hopen]
  refine advance_of_wp (fun s' ↦ Booked n s' _) (wp_startEpoch.mpr ?_)
  refine wp_mono (wp_and (untilYield_spec s.harness.head script) wp_exec) ?_ ?_
  · rintro turn s₁ ⟨⟨hbooks, hbaseline⟩, hexec⟩
    rw [hexec]
    cases turn with
    | skipped cause finalized =>
      exact @finishEpoch_booked s n epochs s₁ ⟨some cause, finalized⟩ h hcalm hopen hbooks hbaseline
    | yielded window loss =>
      rw [Option.toList_none, List.append_nil]
      refine h.congr (hbooks.trans ⟨rfl, rfl, rfl, id⟩) hcalm ?_ fun _ _ ↦ ⟨hopen, hbaseline⟩
      rintro ⟨_, ⟨⟩⟩
  · rintro error s₁ ⟨⟨hbooks, hnoTrip⟩, hexec⟩
    rw [hexec, Option.toList_none, List.append_nil]
    refine h.congr (hbooks.trans ⟨rfl, rfl, rfl, id⟩) hcalm ?_ fun _ ↦ by rintro ⟨⟩
    rintro ⟨message, htripped⟩
    exact hnoTrip message (Except.error.inj (Phase.finished.inj htripped))

/-- The user's loop resumes the generator. -/
theorem resumeEpoch_booked {window : Window} {diagnoseRaises : Bool} (h : Booked n s epochs)
    (hphase : s.phase = .suspended window) (hcalm : ¬SkipPair epochs) :
    Booked n (s.advance (trainer.resumeEpoch window diagnoseRaises))
      (epochs ++ (s.ended trainer (.resume diagnoseRaises)).toList) := by
  obtain ⟨hopen, hbaseline⟩ := h.suspended window hphase
  simp only [ended, hphase]
  refine advance_of_wp (fun s' ↦ Booked n s' _) ?_
  rw [resumeEpoch, wp_bind]
  refine wp_mono (wp_and (unbooked_conclude window diagnoseRaises s) wp_exec) ?_ ?_
  · rintro candidate s₁ ⟨hbooks, hexec⟩
    rw [hexec]
    exact @finishEpoch_booked s n epochs s₁ ⟨none, some candidate⟩ h hcalm hopen hbooks
      (hbooks.finalBaseline hbaseline)
  · rintro error s₁ ⟨⟨hbooks, hnoTrip⟩, hexec⟩
    rw [hexec, Option.toList_none, List.append_nil]
    refine h.congr (hbooks.trans ⟨rfl, rfl, rfl, id⟩) hcalm ?_ fun _ ↦ by rintro ⟨⟩
    rintro ⟨message, htripped⟩
    exact hnoTrip message (Except.error.inj (Phase.finished.inj htripped))

/-- A call of the user touches the harness only. -/
theorem userCall_booked (call : Except TrainerError Parameter) (h : Booked n s epochs) :
    Booked n (s.userCall call) epochs := by
  cases call with
  | ok harness =>
    exact ⟨h.remaining, h.decisions, h.causes, h.finalBaseline, h.calm, h.tripped, h.suspended⟩
  | error error => exact h

/-- What one action does to the books. -/
theorem next_booked (action : Action) (h : Booked n s epochs) :
    Booked n (s.next trainer action) (epochs ++ (s.ended trainer action).toList) := by
  have hstay (s' : Session) (h' : Booked n s' epochs) : Booked n s' (epochs ++ none.toList) := by
    rwa [Option.toList_none, List.append_nil]
  have hcalm (hopen : ∀ result, s.phase ≠ .finished result) : ¬SkipPair epochs := by
    intro hpair
    obtain ⟨message, htripped⟩ := h.tripped.mpr hpair
    exact hopen _ htripped
  rcases hphase : s.phase with _ | window | result
  · have hcalm := hcalm fun result h ↦ by cases hphase.symm.trans h
    cases action with
    | epoch script =>
      by_cases hdone : s.remaining = 0
      · simp only [next, ended, hphase, if_pos hdone]
        refine hstay _ (h.congr ⟨rfl, rfl, rfl, id⟩ hcalm ?_ fun _ ↦ by rintro ⟨⟩)
        rintro ⟨_, ⟨⟩⟩
      · simp only [next, hphase, if_neg hdone]
        exact startEpoch_booked h hphase hcalm hdone
    | backward _ | step _ | resume _ | abandon =>
      simp only [next, ended, hphase]
      exact hstay s h
  · have hcalm := hcalm fun result h ↦ by cases hphase.symm.trans h
    cases action with
    | epoch script =>
      simp only [next, ended, hphase]
      exact hstay s h
    | backward index =>
      simp only [next, ended, hphase]
      split
      · exact hstay _ (userCall_booked _ h)
      · exact hstay s h
    | step allowed =>
      simp only [next, ended, hphase]
      exact hstay _ (userCall_booked _ h)
    | resume diagnoseRaises =>
      simp only [next, hphase]
      exact resumeEpoch_booked h hphase hcalm
    | abandon =>
      simp only [next, ended, hphase]
      refine hstay _ (h.congr ⟨rfl, rfl, rfl, id⟩ hcalm ?_ fun _ ↦ by rintro ⟨⟩)
      rintro ⟨_, ⟨⟩⟩
  · cases action <;>
    · simp only [next, ended, hphase]
      exact hstay s h

/-- What a run does to the books. -/
theorem run_booked {actions : List Action} (h : Booked n s epochs) :
    Booked n (s.run trainer actions) (epochs ++ epochEnds trainer s actions) := by
  induction actions generalizing s epochs with
  | nil => rwa [epochEnds, List.append_nil]
  | cons action actions ih =>
    rw [run_cons, epochEnds, ← List.append_assoc]
    exact ih (next_booked action h)

/-! ## The summary -/

/-- A session of `n` epochs before the first one. -/
structure Fresh (n : ℕ) (s : Session) : Prop where
  phase : s.phase = .ready
  remaining : s.remaining = n
  decisions : s.decisions = []
  consecutiveSkipCauses : s.consecutiveSkipCauses = []

/-- The loop ran through all its epochs: an abandoned epoch remains. -/
def Completed (s : Session) : Prop := s.phase = .finished (.ok ()) ∧ s.remaining = 0

/-- What a run of `n` epochs owes: the counts of its summary add up, and the breaker trips at the first
two skips in a row. -/
structure Accounted (trainer : Trainer) (n : ℕ) (s : Session) (actions : List Action) : Prop where
  counts : (s.run trainer actions).Completed → ∀ tally,
    loopFinished n (s.run trainer actions).decisions (s.run trainer actions).finalBaseline = some tally →
      tally.promoted + tally.rejected + tally.skipped = n
  tripped : (s.run trainer actions).Tripped ↔ SkipPair (epochEnds trainer s actions)
  first : ¬SkipPair (epochEnds trainer s actions).dropLast

theorem Fresh.booked (h : Fresh n s) : Booked n s [] where
  remaining := h.remaining
  decisions := h.decisions
  causes := by rw [h.consecutiveSkipCauses]; rfl
  finalBaseline hne := absurd rfl hne
  calm := by rintro ⟨before, _, _, _, heq, _⟩; cases before <;> cases heq
  tripped := by
    refine iff_of_false ?_ ?_
    · rintro ⟨_, htripped⟩
      cases h.phase.symm.trans htripped
    · rintro ⟨before, _, _, _, heq, _⟩
      cases before <;> cases heq
  suspended window hwindow := by cases h.phase.symm.trans hwindow

/-- Decisions are promotions, rejections, or infra-invalid. -/
theorem countP_outcomes (decisions : List ResultDecision) :
    decisions.countP (fun decision ↦ decision.outcome = .promoted) +
      decisions.countP (fun decision ↦ decision.outcome = .rejected) +
        decisions.countP (fun decision ↦ decision.outcome = .invalidInfra) = decisions.length := by
  induction decisions with
  | nil => rfl
  | cons decision decisions ih =>
    rw [List.countP_cons, List.countP_cons, List.countP_cons, List.length_cons, ← ih]
    cases houtcome : decision.outcome <;> simp <;> omega

/-- **The summary accounts for every epoch unless infra decided one.**  An epoch whose decision is
neither a promotion nor a rejection is counted as nothing; the breaker counts it as a skip. -/
theorem accounted_iff (h : Fresh n s) (actions : List Action) : Accounted trainer n s actions ↔
    ((s.run trainer actions).Completed → ∀ epoch ∈ epochEnds trainer s actions,
      ∀ decision ∈ epoch.decision, decision.outcome ≠ .invalidInfra) := by
  have hbooked : Booked n (s.run trainer actions) (epochEnds trainer s actions) := by
    have hrun : Booked n (s.run trainer actions) ([] ++ epochEnds trainer s actions) :=
      run_booked h.booked
    rwa [List.nil_append] at hrun
  have hinvalid : (s.run trainer actions).decisions.countP
        (fun decision ↦ decision.outcome = .invalidInfra) = 0 ↔
      ∀ epoch ∈ epochEnds trainer s actions, ∀ decision ∈ epoch.decision,
        decision.outcome ≠ .invalidInfra := by
    rw [hbooked.decisions, List.countP_eq_zero]
    simp only [List.mem_filterMap, decide_eq_true_eq]
    exact ⟨fun h epoch hepoch decision hdecision ↦ h decision ⟨epoch, hepoch, hdecision⟩,
      fun h decision ⟨epoch, hepoch, hdecision⟩ ↦ h epoch hepoch decision hdecision⟩
  rw [← hinvalid]
  have hcount := countP_outcomes (s.run trainer actions).decisions
  constructor
  · intro haccounted hcompleted
    rcases hbaseline : (s.run trainer actions).finalBaseline with _ | baseline
    · have hnil : epochEnds trainer s actions = [] := by
        by_contra hne
        exact hbooked.finalBaseline hne hbaseline
      rw [hbooked.decisions, hnil]
      rfl
    · have hsum := haccounted.counts hcompleted _ (by rw [loopFinished, hbaseline]; rfl)
      dsimp only at hsum
      omega
  · intro hnone
    refine ⟨fun hcompleted tally htally ↦ ?_, hbooked.tripped, hbooked.calm⟩
    have hnone := hnone hcompleted
    obtain ⟨baseline, -, rfl⟩ := Option.map_eq_some_iff.mp htally
    dsimp only
    omega

/-! ## An epoch that is counted as nothing -/

/-- A candidate that solves one task more, and one task less unless infra is to blame. -/
def unmeasurableRun : ExperimentResult :=
  { sampleRun "r1" [sampleRollout "t" .unscorableInfra, sampleRollout "u" .solved] with
    gitCommitHash := "c1"
    finishedAt := some 1 }

/-- An epoch that measures it twice. -/
def unmeasurableEpoch : EpochScript :=
  { staleEpoch (staleMeasurement "r0" "b" ["t"]) unmeasurableRun with second := .measured unmeasurableRun }

/-- A session of one epoch. -/
def oneEpoch : Session := { staleSession with remaining := 1 }

theorem oneEpoch_fresh : Fresh 1 oneEpoch := ⟨rfl, rfl, rfl, rfl⟩

/-- **A lost epoch.**  The one epoch of the session ends with an infra-invalid decision: the summary
says that nothing was promoted, rejected or skipped. -/
theorem infra_epoch_lost :
    loopFinished 1 (oneEpoch.run staleTrainer [.epoch unmeasurableEpoch, .epoch unmeasurableEpoch]).decisions
      (oneEpoch.run staleTrainer [.epoch unmeasurableEpoch, .epoch unmeasurableEpoch]).finalBaseline =
        some ⟨0, 0, 0⟩ ∧
    ¬Accounted staleTrainer 1 oneEpoch [.epoch unmeasurableEpoch, .epoch unmeasurableEpoch] := by
  have htally : loopFinished 1
      (oneEpoch.run staleTrainer [.epoch unmeasurableEpoch, .epoch unmeasurableEpoch]).decisions
      (oneEpoch.run staleTrainer [.epoch unmeasurableEpoch, .epoch unmeasurableEpoch]).finalBaseline =
        some ⟨0, 0, 0⟩ := by
    decide +kernel
  have hcompleted : (oneEpoch.run staleTrainer
      [.epoch unmeasurableEpoch, .epoch unmeasurableEpoch]).Completed := ⟨rfl, rfl⟩
  refine ⟨htally, fun h ↦ ?_⟩
  cases h.counts hcompleted _ htally

/-- A session that promotes is accounted for. -/
theorem accounted_iff_promoted :
    Accounted staleTrainer 1 oneEpoch (staleFirst ++ [.epoch unmeasurableEpoch]) := by
  have hdecided : ∀ epoch ∈ epochEnds staleTrainer oneEpoch (staleFirst ++ [.epoch unmeasurableEpoch]),
      ∀ decision ∈ epoch.decision, decision.outcome ≠ .invalidInfra := by
    decide +kernel
  exact (accounted_iff oneEpoch_fresh _).mpr fun _ ↦ hdecided

end Session

end HarnessTraining
