import HarnessTraining.Rollout.Balance

/-!
# The invariant rule of the episode loop

What an executor keeps from step to step, the loop keeps from the first step to the last.

`between` holds before every step, `settled` also after the last one, `always` at every moment.  A
step that does not end the episode restores `between`; one that does, or that a deadline cuts short,
leaves `settled`; an exception leaves `always`, and no step follows.

* `runTaskLoop_invariant` — the rule.
-/

set_option autoImplicit false

namespace HarnessTraining

open StateExcept

variable {A σ : Type}

/-- Put a step on the action chain. -/
def Rollout.record (s : Rollout A σ) (step : ChainStep) : Rollout A σ :=
  { s with actionChain := s.actionChain ++ [step] }

/-- What a step leaves: its transition is recorded, or that of a step a deadline cut short; any other
exception ends the loop. -/
def KeepsStep (u : Unicode) (between settled always : Rollout A σ → Prop) (envAction : EnvAction)
    (step : LoopM A σ StepResult) (s : Rollout A σ) : Prop :=
  wp step
    (fun result s' ↦
      let s'' := s'.record ⟨envAction, u.scrubStepResult envAction.command? result, false⟩
      settled s'' ∧ (result.terminal = false → between s''))
    (fun error s' ↦ always s' ∧ (error = .cancelled →
      settled (s'.record ⟨envAction, u.scrubStepResult envAction.command? .timedOut, true⟩))) s

/-- Invariants that an executor keeps. -/
structure Keeps (u : Unicode) (executor : StepExecutor A σ)
    (between settled always : Rollout A σ → Prop) : Prop where
  settle : ∀ s, between s → settled s
  weaken : ∀ s, settled s → always s
  /-- The loop's own events do not matter, apart from a request. -/
  push_between : ∀ s (event : Event A), event.ofExecutor = false → event.requested? = none →
    between s → between (s.push event)
  push_settled : ∀ s (event : Event A), event.ofExecutor = false → event.requested? = none →
    settled s → settled (s.push event)
  push_always : ∀ s (event : Event A), event.ofExecutor = false → event.requested? = none →
    always s → always (s.push event)
  provision : ∀ s, between s →
    wp executor.provision (fun _ s' ↦ between s') (fun _ s' ↦ always s') s
  stepRun : ∀ action s (event : Event A), event.requested? = some (.run action) → between s →
    KeepsStep u between settled always (.run action) (executor.stepRun action) (s.push event)
  /-- A submit is served while it is prepared, or verified afterwards. -/
  submit : ∀ s (event : Event A), event.requested? = some .verify → between s →
    wp executor.prepareSubmit
      (fun served s' ↦ KeepsStep u between settled always .verify
        (served.elim executor.stepVerify pure) s')
      (fun _ s' ↦ always s') (s.push event)

section Rule

variable {u : Unicode} {world : World A} {executor : StepExecutor A σ}
  {between settled always : Rollout A σ → Prop}

/-- An event of the loop that is no request keeps `I`. -/
def KeptByLoop (I : Rollout A σ → Prop) : Prop :=
  ∀ s (event : Event A), event.ofExecutor = false → event.requested? = none → I s → I (s.push event)

theorem askPolicy_invariant {α : Type} {event : Except PolicyError α → Event A}
    {ask : List (Event A) → Except PolicyError α} {I : Rollout A σ → Prop} (hpush : KeptByLoop I)
    (hevent : ∀ answer, (event answer).ofExecutor = false ∧ (event answer).requested? = none)
    {s : Rollout A σ} (hs : I s) :
    wp (askPolicy event ask) (fun _ s' ↦ I s') (fun _ s' ↦ I s') s := by
  rw [wp_askPolicy]
  exact ⟨fun a _ ↦ hpush s _ (hevent _).1 (hevent _).2 hs,
    fun error _ ↦ hpush s _ (hevent _).1 (hevent _).2 hs⟩

theorem tell_invariant {row : TelemetryRow} {I : Rollout A σ → Prop} (hpush : KeptByLoop I)
    {s : Rollout A σ} (hs : I s) :
    wp (tell world row) (fun _ s' ↦ I s') (fun _ s' ↦ I s') s := by
  rw [wp_tell]
  exact ⟨fun _ ↦ hpush s _ rfl rfl hs, fun _ _ ↦ hpush s _ rfl rfl hs⟩

theorem report_invariant {I : Rollout A σ → Prop} (hpush : KeptByLoop I) (previousStepIndex : ℕ) :
    ∀ (transitions : List (A × StepResult)) (callIndex : ℕ) (s : Rollout A σ), I s →
      wp (report world previousStepIndex callIndex transitions) (fun _ s' ↦ I s')
        (fun _ s' ↦ I s') s
  | [], _, _, hs => hs
  | (action, transition) :: transitions, callIndex, s, hs => by
    rw [report, wp_bind]
    refine wp_mono (tell_invariant hpush hs) (fun _ s₁ h₁ ↦ ?_) fun _ _ h ↦ h
    rw [wp_bind]
    refine wp_mono (askPolicy_invariant hpush (fun _ ↦ ⟨rfl, rfl⟩) h₁) (fun _ s₂ h₂ ↦ ?_)
      fun _ _ h ↦ h
    exact report_invariant hpush previousStepIndex transitions (callIndex + 1) s₂ h₂

/-- Execute a step under its deadlines and put it on the chain. -/
theorem KeepsStep.bounded {envAction : EnvAction} {step : LoopM A σ StepResult} {s : Rollout A σ}
    (h : KeepsStep u between settled always envAction step s) :
    wp (bounded step)
      (fun result s' ↦ wp (recordStep u envAction result.1 result.2)
        (fun stepResult s'' ↦ settled s'' ∧ (stepResult.terminal = false → between s''))
        (fun _ _ ↦ False) s')
      (fun _ s' ↦ always s') s := by
  rw [HarnessTraining.bounded, wp_tryCatch, wp_bind]
  refine wp_mono h (fun result s' hresult ↦ ?_) ?_
  · refine ⟨hresult.1, fun hrunning ↦ hresult.2 ?_⟩
    rwa [terminal_scrubStepResult] at hrunning
  · rintro error s' ⟨halways, hcancelled⟩
    cases error with
    | cancelled =>
      refine ⟨hcancelled rfl, fun hrunning ↦ ?_⟩
      rw [terminal_scrubStepResult] at hrunning
      cases hrunning
    | _ => exact halways

variable (hkeeps : Keeps u executor between settled always)

include hkeeps

theorem executeAction_invariant (action : A) (s : Rollout A σ) (hs : between s) :
    wp (executeAction u world executor action)
      (fun result s' ↦ settled s' ∧ (result.1.terminal = false → between s'))
      (fun _ s' ↦ always s') s := by
  have hweaken : ∀ s, between s → always s := fun s hs ↦ hkeeps.weaken s (hkeeps.settle s hs)
  rw [executeAction, wp_bind, wp_askPolicy]
  refine ⟨fun name _ ↦ ?_, fun _ _ ↦ hweaken _ (hkeeps.push_between _ _ rfl rfl hs)⟩
  rw [wp_ite]
  refine ⟨fun hsubmit ↦ ?_, fun hother ↦ ?_⟩
  · -- a submit: its name is the request
    have hrequest : (Event.name action (.ok name)).requested? = some .verify := if_pos hsubmit
    rw [wp_bind, prepareSubmit, wp_tryCatch]
    refine wp_mono (hkeeps.submit s _ hrequest hs) ?_ ?_
    · intro served s₂ hserved
      rw [wp_bind]
      refine wp_mono hserved.bounded ?_ fun _ _ h ↦ h
      rintro ⟨result, timedOut⟩ s₃ hrecord
      rw [wp_bind]
      exact wp_mono hrecord (fun _ _ h ↦ h) fun _ _ h ↦ h.elim
    · intro error s₂ hs₂
      cases error <;> exact hs₂
  · -- any other action: its rendering is the request
    have hnamed := hkeeps.push_between s (.name action (.ok name)) rfl (if_neg hother) hs
    rw [wp_bind, wp_askPolicy]
    refine ⟨?_, fun _ _ ↦ hweaken _ (hkeeps.push_between _ _ rfl rfl hnamed)⟩
    rintro (envAction | typeName) _
    · rw [wp_bind]
      refine wp_mono (hkeeps.stepRun envAction _ _ rfl hnamed).bounded ?_ fun _ _ h ↦ h
      rintro ⟨result, timedOut⟩ s₃ hrecord
      rw [wp_bind]
      exact wp_mono hrecord (fun _ _ h ↦ h) fun _ _ h ↦ h.elim
    · exact hweaken _ (hkeeps.push_between _ _ rfl rfl hnamed)

theorem executeBatch_invariant : ∀ (actions : List A) (room : ℕ) (s : Rollout A σ), between s →
    wp (executeBatch u world executor actions room)
      (fun batch s' ↦ settled s' ∧ (batch.terminal = false → between s')) (fun _ s' ↦ always s') s
  | [], _, s, hs => ⟨hkeeps.settle s hs, fun _ ↦ hs⟩
  | _ :: _, 0, s, hs => ⟨hkeeps.settle s hs, fun _ ↦ hs⟩
  | action :: actions, room + 1, s, hs => by
    rw [executeBatch, wp_bind]
    refine wp_mono (executeAction_invariant hkeeps action s hs) ?_ fun _ _ h ↦ h
    rintro ⟨transition, submitRequested⟩ s₁ ⟨hsettled, hbetween⟩
    rw [wp_ite]
    refine ⟨fun _ ↦ ⟨hsettled, by simp⟩, fun hrunning ↦ ?_⟩
    rw [wp_bind]
    exact wp_mono
      (executeBatch_invariant actions room s₁ (hbetween (Bool.eq_false_iff.mpr hrunning)))
      (fun _ _ h ↦ h) fun _ _ h ↦ h

/-- What follows a batch: its reports, and the end or the later turns. -/
theorem afterBatch_invariant {maxSteps fuel : ℕ} {stallTimeoutSec : ℚ} (batch : Batch A)
    (hturns : ∀ (stepIndex : ℕ) (final : Option StepResult) (s : Rollout A σ), between s →
      wp (turns u world executor maxSteps stallTimeoutSec fuel stepIndex final)
        (fun _ s' ↦ settled s') (fun _ s' ↦ always s') s)
    (previousStepIndex stepIndex : ℕ) (final : Option StepResult) (s : Rollout A σ)
    (hsettled : settled s) (hbetween : batch.terminal = false → between s) :
    wp (do
        report world previousStepIndex 0 batch.transitions
        if batch.terminal = true then finish batch.submitRequested final stepIndex
        else turns u world executor maxSteps stallTimeoutSec fuel stepIndex final)
      (fun _ s' ↦ settled s') (fun _ s' ↦ always s') s := by
  rw [wp_bind]
  cases hterminal : batch.terminal with
  | true =>
    refine wp_mono (report_invariant hkeeps.push_settled previousStepIndex _ 0 s hsettled) ?_
      fun s' _ h ↦ hkeeps.weaken _ h
    intro _ s₁ hs₁
    rw [if_pos rfl]
    unfold finish
    split
    · exact hs₁
    · exact hkeeps.weaken s₁ hs₁
  | false =>
    refine wp_mono (report_invariant hkeeps.push_between previousStepIndex _ 0 s
      (hbetween hterminal)) ?_ fun _ _ h ↦ hkeeps.weaken _ (hkeeps.settle _ h)
    intro _ s₁ hs₁
    rw [if_neg (by simp)]
    exact hturns stepIndex final s₁ hs₁

theorem turns_invariant (maxSteps : ℕ) (stallTimeoutSec : ℚ) :
    ∀ (fuel stepIndex : ℕ) (final : Option StepResult) (s : Rollout A σ), between s →
      wp (turns u world executor maxSteps stallTimeoutSec fuel stepIndex final)
        (fun _ s' ↦ settled s') (fun _ s' ↦ always s') s
  | 0, _, _, s, hs => hkeeps.settle s hs
  | fuel + 1, stepIndex, final, s, hs => by
    have hrest := fun batch ↦ afterBatch_invariant hkeeps batch
      (turns_invariant maxSteps stallTimeoutSec fuel) stepIndex
    rw [turns, wp_ite]
    refine ⟨fun _ ↦ hkeeps.settle s hs, fun _ ↦ ?_⟩
    rw [wp_bind]
    have hact : wp (act world stallTimeoutSec) (fun _ s' ↦ between s') (fun _ s' ↦ between s') s := by
      refine wp_mono (act_spec stallTimeoutSec s) ?_ ?_
      · rintro _ _ ⟨answer, rfl, -⟩
        exact hkeeps.push_between s _ rfl rfl hs
      · rintro _ _ ⟨answer, rfl⟩
        exact hkeeps.push_between s _ rfl rfl hs
    refine wp_mono hact ?_ fun _ _ h ↦ hkeeps.weaken _ (hkeeps.settle _ h)
    rintro (text | actions) s₁ hs₁
    · exact hkeeps.settle s₁ hs₁
    rw [wp_bind]
    refine wp_mono (executeBatch_invariant hkeeps actions _ s₁ hs₁) ?_ fun _ _ h ↦ h
    rintro batch s₂ ⟨hsettled, hbetween⟩
    dsimp only
    rw [wp_ite]
    refine ⟨fun _ ↦ ?_, fun _ ↦ hrest batch _ _ s₂ hsettled hbetween⟩
    -- a turn without an action is reported first
    rw [wp_bind, wp_tell]
    exact ⟨fun _ ↦ hrest batch _ _ _ (hkeeps.push_settled s₂ _ rfl rfl hsettled)
      fun h ↦ hkeeps.push_between s₂ _ rfl rfl (hbetween h),
      fun _ _ ↦ hkeeps.weaken _ (hkeeps.push_settled s₂ _ rfl rfl hsettled)⟩

/-- **The invariant rule.**  An episode that returns a step count has settled its last step. -/
theorem runTaskLoop_invariant (maxSteps : ℕ) (stallTimeoutSec : ℚ) {s : Rollout A σ}
    (hs : between s) :
    wp (runTaskLoop u world executor maxSteps stallTimeoutSec)
      (fun outcome s' ↦ always s' ∧ (outcome.stepsTaken.isSome = true → settled s'))
      (fun _ s' ↦ always s') s := by
  have hclassify : ∀ error s', always s' → wp (classify error : LoopM A σ LoopOutcome)
      (fun outcome s' ↦ always s' ∧ (outcome.stepsTaken.isSome = true → settled s'))
      (fun _ s' ↦ always s') s' := by
    intro error s' hs'
    refine wp_mono (classify_spec error s') ?_ ?_
    · rintro outcome _ ⟨hfailed, rfl⟩
      refine ⟨hs', fun hsteps ↦ ?_⟩
      rw [hfailed.steps] at hsteps
      cases hsteps
    · rintro _ _ rfl
      exact hs'
  rw [runTaskLoop, wp_tryCatch, episode, wp_bind, setup, wp_tryCatch, wp_bind, wp_perform, wp_bind,
    Answer.wp_orRaise]
  have hweaken : ∀ s, between s → always s := fun s hs ↦ hkeeps.weaken s (hkeeps.settle s hs)
  have hreset : ∀ answer, between (s.push (.reset answer)) :=
    fun answer ↦ hkeeps.push_between s _ rfl rfl hs
  refine ⟨fun output _ ↦ ?_, fun _ ↦ wp_throw.mpr (hclassify _ _ (hweaken _ (hreset _))),
    fun _ _ ↦ wp_throw.mpr (hclassify _ _ (hweaken _ (hreset _)))⟩
  rw [wp_bind]
  refine wp_mono (hkeeps.provision _ (hreset _)) ?_
    fun _ _ h ↦ wp_throw.mpr (hclassify _ _ h)
  rintro ⟨⟩ s₁ hs₁
  rw [wp_pure, wp_bind]
  refine wp_mono (askPolicy_invariant hkeeps.push_between (fun _ ↦ ⟨rfl, rfl⟩) hs₁) ?_
    fun _ _ h ↦ hclassify _ _ (hweaken _ h)
  rintro ⟨⟩ s₂ hs₂
  exact wp_mono (turns_invariant hkeeps maxSteps stallTimeoutSec maxSteps 0 none s₂ hs₂)
    (fun _ _ h ↦ ⟨hkeeps.weaken _ h, fun _ ↦ h⟩) fun _ _ h ↦ hclassify _ _ h

end Rule

end HarnessTraining
