import HarnessTraining.Rollout.Accounting

/-!
# The decisions of an episode

What a call of `act` leads to: one row for a turn without an action, or a row for each transition of the
batch, in order.  The loop may break off at any point.

* `Stage.next` — what may follow, and which indices a row has;
* `runTaskLoop_ordered` — the trace of every run of the loop follows it, however the run ends.
-/

set_option autoImplicit false

namespace HarnessTraining

open StateExcept

/-- How far an episode is. -/
inductive Stage where
  /-- No decision is under way, after so many steps. -/
  | waiting (stepIndex : ℕ)
  /-- The policy has decided after so many steps, and so many calls of its batch are reported. -/
  | reporting (stepIndex callIndex : ℕ)
  deriving DecidableEq

namespace Stage

variable {A : Type}

/-- The stage after an event. -/
def next : Stage → Event A → Option Stage
  | .waiting stepIndex, .act _ => some (.reporting stepIndex 0)
  | .reporting stepIndex callIndex, .act _ =>
    if 0 < callIndex then some (.reporting (stepIndex + callIndex) 0) else none
  | .reporting stepIndex callIndex, .telemetry (.noValidActionStep step) _ =>
    if callIndex = 0 ∧ step = stepIndex + 1 then some (.waiting step) else none
  | .reporting stepIndex callIndex, .telemetry (.stepCompleted step call _ _) _ =>
    if call = callIndex ∧ step = stepIndex + callIndex + 1 then
      some (.reporting stepIndex (callIndex + 1))
    else none
  | .waiting _, .telemetry _ _ => none
  | stage, _ => some stage

/-- The steps that are taken once the decision under way is concluded. -/
def least : Stage → ℕ
  | .waiting stepIndex => stepIndex
  | .reporting stepIndex callIndex => stepIndex + max 1 callIndex

/-- The next decision may be taken, after so many steps. -/
def Ready (stepIndex : ℕ) : Stage → Prop
  | .waiting step => step = stepIndex
  | .reporting step callIndex => 0 < callIndex ∧ step + callIndex = stepIndex

theorem Ready.act {stage : Stage} {stepIndex : ℕ} (h : stage.Ready stepIndex) (answer : ActAnswer A) :
    stage.next (.act answer) = some (.reporting stepIndex 0) := by
  cases stage with
  | waiting step =>
    obtain rfl : step = stepIndex := h
    rfl
  | reporting step callIndex =>
    obtain ⟨hpos, rfl⟩ := h
    exact if_pos hpos

end Stage

/-- Neither a decision nor a row of the loop. -/
def Event.isQuiet {A : Type} : Event A → Bool
  | .act _ | .telemetry _ _ => false
  | _ => true

theorem Event.isQuiet_of_ofBatch {A : Type} {event : Event A} (h : event.ofBatch = true) :
    event.isQuiet = true := by
  cases event <;> first | rfl | cases h

theorem Stage.next_quiet {A : Type} {event : Event A} (h : event.isQuiet = true) (stage : Stage) :
    stage.next event = some stage := by
  cases event with
  | act => cases h
  | telemetry => cases h
  | _ => cases stage <;> rfl

/-! ## The loop follows the stages -/

section Loop

variable {A σ : Type} {stage stage' : Stage} {s s' : Rollout A σ}

/-- The stage after a trace. -/
def Stage.after (stage : Stage) (events : List (Event A)) : Option Stage := events.foldlM Stage.next stage

theorem Stage.after_cons {event : Event A} {events : List (Event A)} {final : Stage}
    (h : stage.after (event :: events) = some final) :
    ∃ stage', stage.next event = some stage' ∧ stage'.after events = some final := by
  rw [Stage.after, List.foldlM_cons] at h
  exact Option.bind_eq_some_iff.mp h

/-- A rollout is at a stage. -/
def AtStage (stage : Stage) (s : Rollout A σ) : Prop := (Stage.waiting 0).after s.trace = some stage

/-- The trace of a rollout follows the stages. -/
def Ordered (s : Rollout A σ) : Prop := ∃ stage, AtStage stage s

theorem AtStage.ordered (h : AtStage stage s) : Ordered s := ⟨stage, h⟩

theorem AtStage.push {event : Event A} (h : AtStage stage s) (hnext : stage.next event = some stage') :
    AtStage stage' (s.push event) := by
  rw [AtStage, Rollout.push, Stage.after, List.foldlM_append]
  change (Stage.waiting 0).after s.trace >>= _ = _
  rw [h, Option.bind_eq_bind, Option.bind_some, List.foldlM_cons, hnext]
  rfl

theorem AtStage.quiet (h : AtStage stage s)
    (honly : Only (fun event ↦ event.isQuiet = true) s s') : AtStage stage s' := by
  obtain ⟨events, htrace, hevents⟩ := honly
  have hrest : stage.after events = some stage := by
    clear htrace
    induction events with
    | nil => rfl
    | cons event events ih =>
      obtain ⟨hevent, hevents⟩ := List.forall_mem_cons.mp hevents
      rw [Stage.after, List.foldlM_cons, Stage.next_quiet hevent]
      exact ih hevents
  rw [AtStage, htrace, Stage.after, List.foldlM_append]
  change (Stage.waiting 0).after s.trace >>= _ = _
  rw [h, Option.bind_eq_bind, Option.bind_some]
  exact hrest

theorem AtStage.executing (h : AtStage stage s) (hexecuting : Executing s s') : AtStage stage s' :=
  h.quiet (hexecuting.mono fun _ ↦ Event.isQuiet_of_ofBatch)

variable {u : Unicode} {world : World A} {executor : StepExecutor A σ}
  {Shows : EnvAction → List (Event A) → Option StepResult → Prop}

/-- Each transition is reported under its index. -/
theorem report_atStage (previousStepIndex : ℕ) : ∀ (transitions : List (A × StepResult)) (callIndex : ℕ)
    (s : Rollout A σ), AtStage (.reporting previousStepIndex callIndex) s →
    wp (report world previousStepIndex callIndex transitions)
      (fun _ s' ↦ AtStage (.reporting previousStepIndex (callIndex + transitions.length)) s')
      (fun _ s' ↦ Ordered s') s
  | [], callIndex, s, h => h
  | (action, transition) :: transitions, callIndex, s, h => by
    have htold : ∀ answer, AtStage (.reporting previousStepIndex (callIndex + 1)) (s.push
        (.telemetry (.stepCompleted (previousStepIndex + callIndex + 1) callIndex transition
          transition.terminal) answer)) := fun answer ↦ h.push (if_pos ⟨rfl, rfl⟩)
    rw [report, wp_bind, wp_tell]
    refine ⟨fun _ ↦ ?_, fun _ _ ↦ (htold _).ordered⟩
    rw [wp_bind, wp_askPolicy]
    refine ⟨fun _ _ ↦ ?_, fun _ _ ↦ ((htold _).push rfl).ordered⟩
    rw [List.length_cons, Nat.add_comm transitions.length, ← Nat.add_assoc]
    exact report_atStage previousStepIndex transitions (callIndex + 1) _ ((htold _).push rfl)

theorem turns_ordered (hstep : Stepwise executor Shows) (maxSteps : ℕ) (stallTimeoutSec : ℚ) :
    ∀ (fuel stepIndex : ℕ) (final : Option StepResult) (stage : Stage) (s : Rollout A σ),
      stage.Ready stepIndex → AtStage stage s →
      wp (turns u world executor maxSteps stallTimeoutSec fuel stepIndex final)
        (fun _ s' ↦ Ordered s') (fun _ s' ↦ Ordered s') s
  | 0, _, _, _, _, _, h => h.ordered
  | fuel + 1, stepIndex, final, stage, s, hready, h => by
    rw [turns, wp_ite]
    refine ⟨fun _ ↦ h.ordered, fun hroom ↦ ?_⟩
    have hasked : ∀ answer, AtStage (.reporting stepIndex 0) (s.push (.act answer)) :=
      fun answer ↦ h.push (hready.act answer)
    rw [wp_bind]
    refine wp_mono (act_spec stallTimeoutSec s) ?_ ?_
    swap
    · rintro _ _ ⟨answer, rfl⟩
      exact (hasked answer).ordered
    rintro (text | actions) _ ⟨answer, rfl, -⟩
    · exact (hasked answer).ordered
    rw [wp_bind]
    refine wp_mono (executeBatch_spec hstep actions _ _) ?_
      fun _ _ hexecuting ↦ ((hasked answer).executing hexecuting).ordered
    rintro batch s₂ ⟨taken, hexecuted, htrace, -⟩
    have hbatch : AtStage (.reporting stepIndex 0) s₂ :=
      (hasked answer).executing ⟨taken.flatMap Taken.shown, htrace, fun event hevent ↦ by
        obtain ⟨t, ht, hevent⟩ := List.mem_flatMap.mp hevent
        exact (hexecuted.valid t ht).ofBatch hevent⟩
    have hafter : ∀ (stage : Stage) (s₃ : Rollout A σ), AtStage stage s₃ →
        stage.Ready (stepIndex + max 1 batch.transitions.length) →
        wp (if batch.terminal = true then finish batch.submitRequested
            ((batch.transitions.getLast?.map Prod.snd).or final)
            (stepIndex + max 1 batch.transitions.length)
          else turns u world executor maxSteps stallTimeoutSec fuel
            (stepIndex + max 1 batch.transitions.length)
            ((batch.transitions.getLast?.map Prod.snd).or final))
          (fun _ s' ↦ Ordered s') (fun _ s' ↦ Ordered s') s₃ := by
      intro stage s₃ h₃ hready₃
      rw [wp_ite]
      refine ⟨fun _ ↦ ?_, fun _ ↦ turns_ordered hstep maxSteps stallTimeoutSec fuel _ _ stage s₃
        hready₃ h₃⟩
      unfold finish
      split
      · exact h₃.ordered
      · exact h₃.ordered
    dsimp only
    rw [wp_ite]
    refine ⟨fun hempty ↦ ?_, fun hsome ↦ ?_⟩
    · -- a turn without an action: one row
      obtain rfl : actions = [] := List.isEmpty_iff.mp hempty
      obtain rfl : taken = [] := by simpa using hexecuted.performed
      have hnone : batch.transitions = [] := hexecuted.transitions
      have htold : ∀ answer, AtStage (.waiting (stepIndex + 1)) (s₂.push (.telemetry
          (.noValidActionStep (stepIndex + 1)) answer)) := fun answer ↦ hbatch.push (if_pos ⟨rfl, rfl⟩)
      rw [wp_bind, wp_tell]
      refine ⟨fun _ ↦ ?_, fun _ _ ↦ (htold _).ordered⟩
      rw [hnone] at hafter ⊢
      rw [wp_bind, report, wp_pure]
      exact hafter _ _ (htold _) rfl
    · -- a turn with actions: a row for each transition, and there is one
      have hne : actions ≠ [] := fun h ↦ hsome (by rw [h]; rfl)
      have hlength : 0 < batch.transitions.length := by
        rw [hexecuted.transitions, List.length_map]
        exact List.length_pos_of_ne_nil (hexecuted.nonempty hne (by omega))
      rw [wp_bind]
      refine wp_mono (report_atStage stepIndex batch.transitions 0 s₂ hbatch) ?_ fun _ _ h ↦ h
      intro _ s₃ h₃
      rw [Nat.zero_add] at h₃
      exact hafter _ s₃ h₃ ⟨hlength, by omega⟩

/-- **Every run of the loop follows the stages**, also if it ends with an exception. -/
theorem runTaskLoop_ordered (hstep : Stepwise executor Shows) (maxSteps : ℕ) (stallTimeoutSec : ℚ)
    (hs : ∀ event ∈ s.trace, event.isQuiet = true) :
    Ordered (exec (runTaskLoop u world executor maxSteps stallTimeoutSec) s).2 := by
  have hclassify : ∀ error (s' : Rollout A σ), Ordered s' → wp (classify error)
      (fun _ s' ↦ Ordered s') (fun _ s' ↦ Ordered s') s' := by
    intro error s' h
    refine wp_mono (classify_spec error s') ?_ ?_
    · rintro _ _ ⟨-, rfl⟩
      exact h
    · rintro _ _ rfl
      exact h
  have hstart : AtStage (.waiting 0) s := by
    have hnil : AtStage (.waiting 0) ({ s with trace := [] } : Rollout A σ) := rfl
    exact hnil.quiet ⟨s.trace, rfl, hs⟩
  have hreset : ∀ answer, AtStage (.waiting 0) (s.push (.reset answer)) := fun answer ↦ hstart.push rfl
  refine wp_left ?_
  rw [runTaskLoop, wp_tryCatch, episode, wp_bind, setup, wp_tryCatch, wp_bind, wp_perform, wp_bind,
    Answer.wp_orRaise]
  refine ⟨fun output _ ↦ ?_, fun _ ↦ wp_throw.mpr (hclassify _ _ (hreset _).ordered),
    fun _ _ ↦ wp_throw.mpr (hclassify _ _ (hreset _).ordered)⟩
  rw [wp_bind]
  refine wp_mono (hstep.provision _) ?_ ?_
  swap
  · rintro error s' ⟨events, hadds⟩
    exact wp_throw.mpr (hclassify _ _ ((hreset _).executing hadds.executing).ordered)
  rintro ⟨⟩ s₁ ⟨events, hadds, -⟩
  have hprovided := (hreset (world.reset s.trace)).executing hadds.executing
  rw [wp_pure, wp_bind, wp_askPolicy]
  refine ⟨fun _ _ ↦ ?_, fun error _ ↦ hclassify _ _ (hprovided.push rfl).ordered⟩
  exact wp_mono (turns_ordered hstep maxSteps stallTimeoutSec maxSteps 0 none (.waiting 0) _ rfl
    (hprovided.push rfl)) (fun _ _ h ↦ h) fun error s' h ↦ hclassify error s' h

end Loop

end HarnessTraining
