import HarnessTraining.Library.Coupling
import HarnessTraining.Rollout.Invariant

/-!
# One loop, two executors

The loop runs twice, each time on an executor of its own.  If a step of the one comes to what the same
step of the other comes to, the loop cannot tell them apart: it asks the same questions, keeps the same
action chain and ends the same way.

* `SameOutside` — what the loop asks by itself is answered alike.
* `Mirrors` — one executor does as the other does, step by step.
* `coupled_runTaskLoop` — so does the loop on it.
-/

set_option autoImplicit false

namespace HarnessTraining

open StateExcept

variable {A σ τ : Type}

/-! ## What the loop sees -/

/-- The loop's own part of a trace. -/
def seen (trace : List (Event A)) : List (Event A) := trace.filter fun event ↦ !event.ofExecutor

theorem seen_append (trace events : List (Event A)) : seen (trace ++ events) = seen trace ++ seen events :=
  List.filter_append ..

/-- The outside of two loops: each question is answered alike after the same exchanges.  The policy is
a function of what it is shown. -/
structure SameOutside (world world' : World A) : Prop where
  reset : ∀ {trace trace'}, seen trace = seen trace' → world.reset trace = world'.reset trace'
  policyReset : ∀ {trace trace'} (output), seen trace = seen trace' →
    world.policyReset trace output = world'.policyReset trace' output
  act : ∀ {trace trace'}, seen trace = seen trace' → world.act trace = world'.act trace'
  name : ∀ {trace trace'} (action), seen trace = seen trace' →
    world.name trace action = world'.name trace' action
  render : ∀ {trace trace'} (action), seen trace = seen trace' →
    world.render trace action = world'.render trace' action
  observe : ∀ {trace trace'} (action transition), seen trace = seen trace' →
    world.observe trace action transition = world'.observe trace' action transition
  telemetry : ∀ {trace trace'} (row), seen trace = seen trace' →
    world.telemetry trace row = world'.telemetry trace' row

/-- Two rollouts that the loop cannot tell apart. -/
structure Agree (s : Rollout A σ) (t : Rollout A τ) : Prop where
  seen : seen s.trace = seen t.trace
  actionChain : s.actionChain = t.actionChain

theorem Agree.push {s : Rollout A σ} {t : Rollout A τ} (h : Agree s t) (event : Event A) :
    Agree (s.push event) (t.push event) where
  seen := by
    show HarnessTraining.seen (s.trace ++ [event]) = HarnessTraining.seen (t.trace ++ [event])
    rw [seen_append, seen_append, h.seen]
  actionChain := h.actionChain

theorem Agree.record {s : Rollout A σ} {t : Rollout A τ} (h : Agree s t) (step : ChainStep) :
    Agree (s.record step) (t.record step) where
  seen := h.seen
  actionChain := by
    show s.actionChain ++ [step] = t.actionChain ++ [step]
    rw [h.actionChain]

/-! ## What is lost stays lost -/

/-- Nothing of the loop or of its executor finds again what is lost. -/
structure Loses (executor : StepExecutor A σ) (lost : Rollout A σ → Prop) : Prop where
  push : ∀ s (event : Event A), lost s → lost (s.push event)
  record : ∀ s step, lost s → lost (s.record step)
  provision : Remains lost executor.provision
  stepRun : ∀ action, Remains lost (executor.stepRun action)
  prepareSubmit : Remains lost executor.prepareSubmit
  stepVerify : Remains lost executor.stepVerify

section Remains

variable {u : Unicode} {world : World A} {executor : StepExecutor A σ} {lost : Rollout A σ → Prop}

/-- A handler that returns or raises at once. -/
theorem remains_handler {α : Type} {handler : LoopError → LoopM A σ α}
    (hhandler : ∀ error, (∃ a, handler error = pure a) ∨ ∃ error', handler error = throw error')
    (error : LoopError) : Remains lost (handler error) := by
  rcases hhandler error with ⟨a, ha⟩ | ⟨error', herror⟩
  · rw [ha]
    exact .pure a
  · rw [herror]
    exact .throw error'

theorem remains_orRaise {α : Type} (raise : EnvError → LoopError) (answer : Answer α) :
    Remains lost (answer.orRaise raise : LoopM A σ α) := by
  rcases answer with (_ | error) | a
  · exact .throw _
  · exact .throw _
  · exact .pure a

theorem remains_bounded {step : LoopM A σ StepResult} (hstep : Remains lost step) :
    Remains lost (bounded step) := by
  refine .tryCatch (.bind hstep fun _ ↦ .pure _) (remains_handler ?_)
  rintro (_ | _) <;> first | exact Or.inl ⟨_, rfl⟩ | exact Or.inr ⟨_, rfl⟩

theorem remains_perform {α : Type} (hpush : ∀ s (event : Event A), lost s → lost (s.push event))
    (event : α → Event A) (ask : List (Event A) → α) : Remains lost (perform (σ := σ) event ask) :=
  fun s ↦ hpush s _

theorem remains_execute (hpush : ∀ s (event : Event A), lost s → lost (s.push event))
    (envAction : EnvAction) : Remains lost (executeEnvAction (σ := σ) world envAction) := by
  cases envAction with
  | run action =>
    exact .bind (remains_perform hpush _ _) fun answer ↦
      .bind (remains_orRaise _ answer) fun _ ↦ .pure _
  | verify =>
    exact .bind (remains_perform hpush _ _) fun answer ↦
      .bind (remains_orRaise _ answer) fun _ ↦ .pure _

theorem loses_live {lost : Rollout A Unit → Prop}
    (hpush : ∀ s (event : Event A), lost s → lost (s.push event))
    (hrecord : ∀ s step, lost s → lost (s.record step)) : Loses (liveStepExecutor world) lost where
  push := hpush
  record := hrecord
  provision := .bind (remains_perform hpush _ _) (remains_orRaise _)
  stepRun action := remains_execute hpush (.run action)
  prepareSubmit := .pure _
  stepVerify := remains_execute hpush .verify

variable (h : Loses executor lost)

include h

theorem remains_askPolicy {α : Type} (event : Except PolicyError α → Event A)
    (ask : List (Event A) → Except PolicyError α) : Remains lost (askPolicy (σ := σ) event ask) := by
  refine .bind (remains_perform h.push _ _) ?_
  rintro (error | a)
  · exact .throw _
  · exact .pure a

theorem remains_tell (row : TelemetryRow) : Remains lost (tell (σ := σ) world row) := by
  refine .bind (remains_perform h.push _ _) ?_
  rintro (text | _)
  · exact .throw _
  · exact .pure _

theorem remains_act (stallTimeoutSec : ℚ) : Remains lost (act (σ := σ) world stallTimeoutSec) := by
  refine .bind (remains_perform h.push _ _) ?_
  rintro (_ | _ | _ | (_ | _) | _) <;> first | exact .pure _ | exact .throw _

theorem remains_prepareSubmit : Remains lost (prepareSubmit executor) := by
  refine .tryCatch h.prepareSubmit (remains_handler ?_)
  rintro (_ | _) <;> exact Or.inr ⟨_, rfl⟩

/-- A step and its record. -/
theorem remains_taken {step : LoopM A σ StepResult} (hstep : Remains lost step)
    (envAction : EnvAction) (submitRequested : Bool) :
    Remains lost (do
      let (result, timedOut) ← bounded step
      let stepResult ← recordStep u envAction result timedOut
      return (stepResult, submitRequested)) :=
  .bind (remains_bounded hstep) fun _ ↦ .bind (fun s ↦ h.record s _) fun _ ↦ .pure _

theorem remains_verified (served : Option StepResult) :
    Remains lost (served.elim executor.stepVerify pure) := by
  cases served with
  | none => exact h.stepVerify
  | some result => exact .pure result

/-- What follows the name of an action. -/
theorem remains_named (action : A) (name : String) : Remains lost (do
    if name = SUBMIT_ACTION_NAME then
      let served ← prepareSubmit executor
      let (result, timedOut) ← bounded (served.elim executor.stepVerify pure)
      let stepResult ← recordStep u .verify result timedOut
      return (stepResult, true)
    else
      match ← askPolicy (.render action) fun trace ↦ world.render trace action with
      | .other typeName =>
        throw (.policyBoundary
          s!"ValueError: action route for '{name}' produced {typeName}; expected RunAction")
      | .run envAction =>
        let (result, timedOut) ← bounded (executor.stepRun envAction)
        let stepResult ← recordStep u (.run envAction) result timedOut
        return (stepResult, false)) := by
  refine .ite ?_ ?_
  · exact .bind (remains_prepareSubmit h) fun served ↦ remains_taken h (remains_verified h served) _ _
  · refine .bind (remains_askPolicy h _ _) ?_
    rintro (envAction | typeName)
    · exact remains_taken h (h.stepRun envAction) _ _
    · exact .throw _

theorem remains_executeAction (action : A) : Remains lost (executeAction u world executor action) :=
  .bind (remains_askPolicy h _ _) (remains_named h action)

theorem remains_executeBatch : ∀ (actions : List A) (room : ℕ),
    Remains lost (executeBatch u world executor actions room)
  | [], _ => .pure _
  | _ :: _, 0 => .pure _
  | action :: actions, room + 1 => by
    refine .bind (remains_executeAction h action) fun taken ↦ .ite (.pure _) ?_
    exact .bind (remains_executeBatch actions room) fun _ ↦ .pure _

theorem remains_report (previousStepIndex : ℕ) : ∀ (transitions : List (A × StepResult)) (callIndex : ℕ),
    Remains lost (report (σ := σ) world previousStepIndex callIndex transitions)
  | [], _ => .pure _
  | (action, transition) :: transitions, callIndex => by
    refine .bind (remains_tell h _) fun _ ↦ .bind (remains_askPolicy h _ _) fun _ ↦ ?_
    exact remains_report previousStepIndex transitions (callIndex + 1)

omit h in
theorem remains_finish (submitRequested : Bool) (final : Option StepResult) (stepIndex : ℕ) :
    Remains lost (finish (A := A) (σ := σ) submitRequested final stepIndex) := by
  cases final with
  | none => exact .throw _
  | some result => exact .pure _

/-- What follows a batch. -/
theorem remains_afterBatch {next : ℕ → Option StepResult → LoopM A σ LoopOutcome}
    (hnext : ∀ stepIndex final, Remains lost (next stepIndex final)) (actions : List A) (stepIndex : ℕ)
    (final : Option StepResult) (batch : Batch A) : Remains lost (do
      let taken := max 1 batch.transitions.length
      if actions.isEmpty then
        tell world (.noValidActionStep (stepIndex + 1))
      report world stepIndex 0 batch.transitions
      let final := (batch.transitions.getLast?.map Prod.snd).or final
      if batch.terminal then
        finish batch.submitRequested final (stepIndex + taken)
      else
        next (stepIndex + taken) final) := by
  have hreport : Remains lost (report world stepIndex 0 batch.transitions) :=
    remains_report h stepIndex batch.transitions 0
  have hrest := Remains.bind hreport
    fun _ ↦ Remains.ite (p := batch.terminal = true)
      (remains_finish batch.submitRequested ((batch.transitions.getLast?.map Prod.snd).or final)
        (stepIndex + max 1 batch.transitions.length))
      (hnext (stepIndex + max 1 batch.transitions.length)
        ((batch.transitions.getLast?.map Prod.snd).or final))
  exact .ite (.bind (remains_tell h _) fun _ ↦ hrest) hrest

theorem remains_turns (maxSteps : ℕ) (stallTimeoutSec : ℚ) :
    ∀ (fuel stepIndex : ℕ) (final : Option StepResult),
      Remains lost (turns u world executor maxSteps stallTimeoutSec fuel stepIndex final)
  | 0, _, _ => .pure _
  | fuel + 1, stepIndex, final => by
    refine .ite (.pure _) (.bind (remains_act h stallTimeoutSec) ?_)
    rintro (text | actions)
    · exact .pure _
    · exact .bind (remains_executeBatch h actions _)
        (remains_afterBatch h (remains_turns maxSteps stallTimeoutSec fuel) actions stepIndex final)

end Remains

/-! ## The parts of the loop -/

/-- A relation that two rollouts keep as long as the loop puts the same questions, apart from a
request. -/
structure KeepsPace (related : Rollout A σ → Rollout A τ → Prop) : Prop where
  agree : ∀ s t, related s t → Agree s t
  push : ∀ s t (event : Event A), event.ofExecutor = false → event.requested? = none → related s t →
    related (s.push event) (t.push event)

theorem Agree.keepsPace : KeepsPace (Agree (A := A) (σ := σ) (τ := τ)) where
  agree _ _ h := h
  push _ _ event _ _ h := h.push event

/-- The relation may end with the episode. -/
theorem KeepsPace.unless {related : Rollout A σ → Rollout A τ → Prop} (h : KeepsPace related)
    (terminal : Bool) : KeepsPace fun s t ↦ Agree s t ∧ (terminal = false → related s t) where
  agree _ _ hst := hst.1
  push s t event hloop hrequest hst :=
    ⟨hst.1.push event, fun hrunning ↦ h.push s t event hloop hrequest (hst.2 hrunning)⟩

/-- The same result, in related states. -/
def SameResult {ρ : Type} (related : Rollout A σ → Rollout A τ → Prop) (a : ρ) (s : Rollout A σ) (b : ρ)
    (t : Rollout A τ) : Prop :=
  b = a ∧ related s t

theorem SameResult.mono {ρ : Type} {related related' : Rollout A σ → Rollout A τ → Prop}
    (himp : ∀ s t, related s t → related' s t) (a : ρ) (s : Rollout A σ) (b : ρ) (t : Rollout A τ)
    (h : SameResult related a s b t) : SameResult related' a s b t :=
  ⟨h.1, himp s t h.2⟩

section Parts

variable {u : Unicode} {world world' : World A}
  {x : Excuses (Rollout A σ) (Rollout A τ) LoopError} {related : Rollout A σ → Rollout A τ → Prop}
  {s : Rollout A σ} {t : Rollout A τ}

/-- The same question with the same answer. -/
theorem coupled_perform {α : Type} {event : α → Event A} {ask ask' : List (Event A) → α}
    {E : LoopError → Rollout A σ → LoopError → Rollout A τ → Prop} (hask : ask s.trace = ask' t.trace) :
    Coupled x (perform event ask) (perform event ask')
      (fun a s' b t' ↦ b = a ∧ s' = s.push (event a) ∧ t' = t.push (event a)) E s t :=
  Or.inr (Or.inr ⟨hask.symm, rfl, by rw [hask]⟩)

theorem coupled_askPolicy {α : Type} {event : Except PolicyError α → Event A}
    {ask ask' : List (Event A) → Except PolicyError α} (hask : ask s.trace = ask' t.trace) :
    Coupled x (askPolicy event ask) (askPolicy event ask')
      (fun a s' b t' ↦ b = a ∧ s' = s.push (event (.ok a)) ∧ t' = t.push (event (.ok a)))
      (fun e s' d t' ↦ d = e ∧ ∃ error,
        s' = s.push (event (.error error)) ∧ t' = t.push (event (.error error))) s t := by
  refine Coupled.bind (E := _) (coupled_perform hask) ?_ ?_ ?_
  · rintro (error | a) _ _ _ ⟨rfl, rfl, rfl⟩
    · exact .throw ⟨rfl, error, rfl, rfl⟩
    · exact .pure ⟨rfl, rfl, rfl⟩
  · rintro (error | a)
    · exact .throw _
    · exact .pure _
  · rintro (error | a)
    · exact .throw _
    · exact .pure _

/-- A question that is no request. -/
theorem KeepsPace.askPolicy {α : Type} {event : Except PolicyError α → Event A}
    {ask ask' : List (Event A) → Except PolicyError α} (hpace : KeepsPace related)
    (hevent : ∀ answer, (event answer).ofExecutor = false ∧ (event answer).requested? = none)
    (hask : ask s.trace = ask' t.trace) (hst : related s t) :
    Coupled x (askPolicy event ask) (askPolicy event ask') (SameResult related) (SameResult related) s t := by
  have hpush : ∀ answer, related (s.push (event answer)) (t.push (event answer)) := fun answer ↦
    hpace.push s t _ (hevent answer).1 (hevent answer).2 hst
  refine (coupled_askPolicy hask).mono ?_ ?_
  · rintro a _ b _ ⟨rfl, rfl, rfl⟩
    exact ⟨rfl, hpush _⟩
  · rintro e _ d _ ⟨rfl, error, rfl, rfl⟩
    exact ⟨rfl, hpush _⟩

variable (houtside : SameOutside world world')

include houtside

theorem KeepsPace.tell (hpace : KeepsPace related) (row : TelemetryRow) (hst : related s t) :
    Coupled x (tell world row) (tell world' row) (SameResult related) (SameResult related) s t := by
  have hpush : ∀ answer, related (s.push (.telemetry row answer)) (t.push (.telemetry row answer)) :=
    fun answer ↦ hpace.push s t _ rfl rfl hst
  refine Coupled.bind (E := _) (coupled_perform (houtside.telemetry row (hpace.agree s t hst).seen))
    ?_ ?_ ?_
  · rintro (text | ⟨⟩) _ _ _ ⟨rfl, rfl, rfl⟩
    · exact .throw ⟨rfl, hpush _⟩
    · exact .pure ⟨rfl, hpush _⟩
  · rintro (text | ⟨⟩)
    · exact .throw _
    · exact .pure _
  · rintro (text | ⟨⟩)
    · exact .throw _
    · exact .pure _

theorem KeepsPace.act (hpace : KeepsPace related) (stallTimeoutSec : ℚ) (hst : related s t) :
    Coupled x (act world stallTimeoutSec) (act world' stallTimeoutSec) (SameResult related) (SameResult related)
      s t := by
  have hpush : ∀ answer, related (s.push (.act answer)) (t.push (.act answer)) := fun answer ↦
    hpace.push s t _ rfl rfl hst
  refine Coupled.bind (E := _) (coupled_perform (houtside.act (hpace.agree s t hst).seen)) ?_ ?_ ?_
  · rintro (actions | _ | text | (_ | _) | error) _ _ _ ⟨rfl, rfl, rfl⟩ <;>
      first | exact .pure ⟨rfl, hpush _⟩ | exact .throw ⟨rfl, hpush _⟩
  · rintro (actions | _ | text | (_ | _) | error) <;> first | exact .pure _ | exact .throw _
  · rintro (actions | _ | text | (_ | _) | error) <;> first | exact .pure _ | exact .throw _

variable {executor : StepExecutor A σ} {executor' : StepExecutor A τ}
  (hlost : Loses executor x.lost) (hlost' : Loses executor' x.lost')

include hlost hlost'

theorem KeepsPace.report (hpace : KeepsPace related) (previousStepIndex : ℕ) :
    ∀ (transitions : List (A × StepResult)) (callIndex : ℕ) (s : Rollout A σ) (t : Rollout A τ),
      related s t →
      Coupled x (report world previousStepIndex callIndex transitions)
        (report world' previousStepIndex callIndex transitions) (SameResult related) (SameResult related) s t
  | [], _, _, _, hst => .pure ⟨rfl, hst⟩
  | (action, transition) :: transitions, callIndex, s, t, hst => by
    refine Coupled.bind (hpace.tell houtside _ hst) ?_
      (fun _ ↦ .bind (remains_askPolicy hlost _ _) fun _ ↦ remains_report hlost _ _ _)
      fun _ ↦ .bind (remains_askPolicy hlost' _ _) fun _ ↦ remains_report hlost' _ _ _
    rintro ⟨⟩ s₁ ⟨⟩ t₁ ⟨-, hst₁⟩
    refine Coupled.bind (hpace.askPolicy (fun _ ↦ ⟨rfl, rfl⟩)
      (houtside.observe action transition (hpace.agree s₁ t₁ hst₁).seen) hst₁) ?_
      (fun _ ↦ remains_report hlost _ _ _) fun _ ↦ remains_report hlost' _ _ _
    rintro ⟨⟩ s₂ ⟨⟩ t₂ ⟨-, hst₂⟩
    exact KeepsPace.report hpace previousStepIndex transitions (callIndex + 1) s₂ t₂ hst₂

end Parts

/-! ## Step by step -/

/-- Two steps that the loop cannot tell apart; a deadline does not cut them short. -/
def CoupledStep (u : Unicode) (x : Excuses (Rollout A σ) (Rollout A τ) LoopError)
    (related : Rollout A σ → Rollout A τ → Prop) (envAction : EnvAction) (step : LoopM A σ StepResult)
    (step' : LoopM A τ StepResult) (s : Rollout A σ) (t : Rollout A τ) : Prop :=
  Coupled x step step'
    (fun result s' result' t' ↦ result' = result ∧ Agree s' t' ∧
      let taken := ⟨envAction, u.scrubStepResult envAction.command? result, false⟩
      (result.terminal = false → related (s'.record taken) (t'.record taken)))
    (fun error s' error' t' ↦ error' = error ∧ error ≠ .cancelled ∧ Agree s' t') s t

/-- One executor does as the other does. -/
structure Mirrors (u : Unicode) (executor : StepExecutor A σ) (executor' : StepExecutor A τ)
    (x : Excuses (Rollout A σ) (Rollout A τ) LoopError)
    (related : Rollout A σ → Rollout A τ → Prop) : Prop where
  lost : Loses executor x.lost
  lost' : Loses executor' x.lost'
  escapes : ∀ error, x.escapes error →
    ∃ actionIndex diagnostic, error = .executionDrift actionIndex diagnostic
  pace : KeepsPace related
  provision : ∀ s t, related s t →
    Coupled x executor.provision executor'.provision (SameResult related) (SameResult Agree) s t
  stepRun : ∀ action s t (event : Event A), event.requested? = some (.run action) → related s t →
    CoupledStep u x related (.run action) (executor.stepRun action) (executor'.stepRun action)
      (s.push event) (t.push event)
  submit : ∀ s t (event : Event A), event.requested? = some .verify → related s t →
    Coupled x executor.prepareSubmit executor'.prepareSubmit
      (fun served s' served' t' ↦ CoupledStep u x related .verify
        (served.elim executor.stepVerify pure) (served'.elim executor'.stepVerify pure) s' t')
      (SameResult Agree) (s.push event) (t.push event)

section Mirrors

variable {u : Unicode} {world world' : World A}
  {x : Excuses (Rollout A σ) (Rollout A τ) LoopError} {related : Rollout A σ → Rollout A τ → Prop}
  {executor : StepExecutor A σ} {executor' : StepExecutor A τ} {s : Rollout A σ} {t : Rollout A τ}

/-- The same result in rollouts that are alike, and related unless it ends the episode. -/
def SameTurn {ρ : Type} (related : Rollout A σ → Rollout A τ → Prop) (terminal : ρ → Bool) (a : ρ)
    (s : Rollout A σ) (b : ρ) (t : Rollout A τ) : Prop :=
  b = a ∧ Agree s t ∧ (terminal a = false → related s t)

variable (hmirrors : Mirrors u executor executor' x related)

include hmirrors

theorem CoupledStep.taken {envAction : EnvAction} {step : LoopM A σ StepResult}
    {step' : LoopM A τ StepResult} (h : CoupledStep u x related envAction step step' s t)
    (submitRequested : Bool) :
    Coupled x
      (do
        let (result, timedOut) ← bounded step
        let stepResult ← recordStep u envAction result timedOut
        return (stepResult, submitRequested))
      (do
        let (result, timedOut) ← bounded step'
        let stepResult ← recordStep u envAction result timedOut
        return (stepResult, submitRequested))
      (SameTurn related fun taken ↦ taken.1.terminal) (SameResult Agree) s t := by
  have hlost := hmirrors.lost
  have hlost' := hmirrors.lost'
  have hstep : Coupled x (do return (← step, false)) (do return (← step', false))
      (fun result s' result' t' ↦ result' = result ∧ result.2 = false ∧ Agree s' t' ∧
        let taken := ⟨envAction, u.scrubStepResult envAction.command? result.1, false⟩
        (result.1.terminal = false → related (s'.record taken) (t'.record taken)))
      (fun error s' error' t' ↦ error' = error ∧ error ≠ .cancelled ∧ Agree s' t') s t := by
    refine Coupled.bind h ?_ (fun _ ↦ .pure _) fun _ ↦ .pure _
    rintro result s' _ t' ⟨rfl, hagree, hrelated⟩
    exact .pure ⟨rfl, rfl, hagree, hrelated⟩
  refine Coupled.bind (E := SameResult Agree) (hstep.tryCatch ?_ ?_ ?_ ?_) ?_
    (fun _ ↦ .bind (fun s ↦ hlost.record s _) fun _ ↦ .pure _)
    fun _ ↦ .bind (fun s ↦ hlost'.record s _) fun _ ↦ .pure _
  · rintro _ s' error t' ⟨rfl, hcancelled, hagree⟩
    cases error with
    | cancelled => exact absurd rfl hcancelled
    | _ => exact .throw ⟨rfl, hagree⟩
  · intro error hescapes
    obtain ⟨actionIndex, diagnostic, rfl⟩ := hmirrors.escapes error hescapes
    rfl
  · refine remains_handler ?_
    rintro (_ | _) <;> first | exact Or.inl ⟨_, rfl⟩ | exact Or.inr ⟨_, rfl⟩
  · refine remains_handler ?_
    rintro (_ | _) <;> first | exact Or.inl ⟨_, rfl⟩ | exact Or.inr ⟨_, rfl⟩
  · rintro ⟨result, _⟩ s' _ t' ⟨rfl, rfl, hagree, hrelated⟩
    refine Or.inr (Or.inr ⟨rfl, hagree.record _, fun hrunning ↦ hrelated ?_⟩)
    exact (terminal_scrubStepResult _ _).symm.trans hrunning

theorem coupled_prepareSubmit {event : Event A} (hevent : event.requested? = some .verify)
    (hst : related s t) :
    Coupled x (prepareSubmit executor) (prepareSubmit executor')
      (fun served s' served' t' ↦ CoupledStep u x related .verify
        (served.elim executor.stepVerify pure) (served'.elim executor'.stepVerify pure) s' t')
      (SameResult Agree) (s.push event) (t.push event) := by
  refine (hmirrors.submit s t event hevent hst).tryCatch ?_ ?_ ?_ ?_
  · rintro _ s' error t' ⟨rfl, hagree⟩
    cases error <;> exact .throw ⟨rfl, hagree⟩
  · intro error hescapes
    obtain ⟨actionIndex, diagnostic, rfl⟩ := hmirrors.escapes error hescapes
    rfl
  · refine remains_handler ?_
    rintro (_ | _) <;> exact Or.inr ⟨_, rfl⟩
  · refine remains_handler ?_
    rintro (_ | _) <;> exact Or.inr ⟨_, rfl⟩

variable (houtside : SameOutside world world')

include houtside

theorem coupled_executeAction (action : A) (hst : related s t) :
    Coupled x (executeAction u world executor action) (executeAction u world' executor' action)
      (SameTurn related fun taken ↦ taken.1.terminal) (SameResult Agree) s t := by
  have hlost := hmirrors.lost
  have hlost' := hmirrors.lost'
  have hagree := hmirrors.pace.agree s t hst
  have hraise : ∀ {s : Rollout A σ} {t : Rollout A τ} {α : Type}
      {event : Except PolicyError α → Event A}, Agree s t → ∀ (e : LoopError) (s' : Rollout A σ)
      (d : LoopError) (t' : Rollout A τ), (d = e ∧ ∃ error, s' = s.push (event (.error error)) ∧
        t' = t.push (event (.error error))) → SameResult Agree e s' d t' := by
    rintro s t α event hagree e _ d _ ⟨rfl, error, rfl, rfl⟩
    exact ⟨rfl, hagree.push _⟩
  refine Coupled.bind ((coupled_askPolicy (houtside.name action hagree.seen)).mono
    (fun _ _ _ _ h ↦ h) (hraise hagree)) ?_ (remains_named hlost action) (remains_named hlost' action)
  rintro _ _ name _ ⟨rfl, rfl, rfl⟩
  by_cases hsubmit : name = SUBMIT_ACTION_NAME
  · -- a submit: its name is the request
    have hrequest : (Event.name action (.ok name)).requested? = some .verify := if_pos hsubmit
    rw [if_pos hsubmit, if_pos hsubmit]
    exact Coupled.bind (coupled_prepareSubmit hmirrors hrequest hst)
      (fun served s' served' t' h ↦ h.taken hmirrors true)
      (fun served ↦ remains_taken hlost (remains_verified hlost served) _ _)
      fun served ↦ remains_taken hlost' (remains_verified hlost' served) _ _
  · -- any other action: its rendering is the request
    have hnamed := hmirrors.pace.push s t (.name action (.ok name)) rfl (if_neg hsubmit) hst
    have hagree' := hmirrors.pace.agree _ _ hnamed
    rw [if_neg hsubmit, if_neg hsubmit]
    refine Coupled.bind ((coupled_askPolicy (houtside.render action hagree'.seen)).mono
      (fun _ _ _ _ h ↦ h) (hraise hagree')) ?_ ?_ ?_
    · rintro _ _ (envAction | typeName) _ ⟨rfl, rfl, rfl⟩
      · exact (hmirrors.stepRun envAction _ _ _ rfl hnamed).taken hmirrors false
      · exact .throw ⟨rfl, hagree'.push _⟩
    · rintro (envAction | typeName)
      · exact remains_taken hlost (hlost.stepRun envAction) _ _
      · exact .throw _
    · rintro (envAction | typeName)
      · exact remains_taken hlost' (hlost'.stepRun envAction) _ _
      · exact .throw _

theorem coupled_executeBatch : ∀ (actions : List A) (room : ℕ) (s : Rollout A σ) (t : Rollout A τ),
    related s t →
    Coupled x (executeBatch u world executor actions room) (executeBatch u world' executor' actions room)
      (SameTurn related Batch.terminal) (SameResult Agree) s t
  | [], _, s, t, hst => .pure ⟨rfl, hmirrors.pace.agree s t hst, fun _ ↦ hst⟩
  | _ :: _, 0, s, t, hst => .pure ⟨rfl, hmirrors.pace.agree s t hst, fun _ ↦ hst⟩
  | action :: actions, room + 1, s, t, hst => by
    have hlost := hmirrors.lost
    have hlost' := hmirrors.lost'
    refine Coupled.bind (coupled_executeAction hmirrors houtside action hst) ?_
      (fun _ ↦ .ite (.pure _) (.bind (remains_executeBatch hlost actions room) fun _ ↦ .pure _))
      fun _ ↦ .ite (.pure _) (.bind (remains_executeBatch hlost' actions room) fun _ ↦ .pure _)
    rintro _ s₁ ⟨transition, submitRequested⟩ t₁ ⟨rfl, hagree, hrelated⟩
    dsimp only
    cases hterminal : transition.terminal with
    | true =>
      rw [if_pos rfl, if_pos rfl]
      exact .pure ⟨rfl, hagree, by rintro ⟨⟩⟩
    | false =>
      rw [if_neg (by simp), if_neg (by simp)]
      refine Coupled.bind (coupled_executeBatch actions room s₁ t₁ (hrelated hterminal)) ?_
        (fun _ ↦ .pure _) fun _ ↦ .pure _
      rintro _ s₂ rest t₂ ⟨rfl, hrest⟩
      exact .pure ⟨rfl, hrest⟩

variable {maxSteps fuel : ℕ} {stallTimeoutSec : ℚ}

/-- What follows a batch: its reports, and the end or the later turns. -/
theorem coupled_afterBatch (batch : Batch A)
    (hturns : ∀ (stepIndex : ℕ) (final : Option StepResult) (s : Rollout A σ) (t : Rollout A τ),
      related s t →
      Coupled x (turns u world executor maxSteps stallTimeoutSec fuel stepIndex final)
        (turns u world' executor' maxSteps stallTimeoutSec fuel stepIndex final) (SameResult Agree)
        (SameResult Agree) s t)
    (previousStepIndex stepIndex : ℕ) (final : Option StepResult) (hagree : Agree s t)
    (hrelated : batch.terminal = false → related s t) :
    Coupled x
      (do
        report world previousStepIndex 0 batch.transitions
        if batch.terminal = true then finish batch.submitRequested final stepIndex
        else turns u world executor maxSteps stallTimeoutSec fuel stepIndex final)
      (do
        report world' previousStepIndex 0 batch.transitions
        if batch.terminal = true then finish batch.submitRequested final stepIndex
        else turns u world' executor' maxSteps stallTimeoutSec fuel stepIndex final)
      (SameResult Agree) (SameResult Agree) s t := by
  have hlost := hmirrors.lost
  have hlost' := hmirrors.lost'
  have hpace := hmirrors.pace.unless batch.terminal
  refine Coupled.bind ((hpace.report houtside hlost hlost' previousStepIndex _ 0 s t
    ⟨hagree, hrelated⟩).mono (fun _ _ _ _ h ↦ h) (SameResult.mono hpace.agree)) ?_
    (fun _ ↦ .ite (remains_finish _ _ _) (remains_turns hlost _ _ _ _ _))
    fun _ ↦ .ite (remains_finish _ _ _) (remains_turns hlost' _ _ _ _ _)
  rintro ⟨⟩ s₁ ⟨⟩ t₁ ⟨-, hagree₁, hrelated₁⟩
  cases hterminal : batch.terminal with
  | true =>
    rw [if_pos rfl, if_pos rfl]
    cases final with
    | none => exact .throw ⟨rfl, hagree₁⟩
    | some result => exact .pure ⟨rfl, hagree₁⟩
  | false =>
    rw [if_neg (by simp), if_neg (by simp)]
    exact hturns stepIndex final s₁ t₁ (hrelated₁ hterminal)

theorem coupled_turns (maxSteps : ℕ) (stallTimeoutSec : ℚ) :
    ∀ (fuel stepIndex : ℕ) (final : Option StepResult) (s : Rollout A σ) (t : Rollout A τ),
      related s t →
      Coupled x (turns u world executor maxSteps stallTimeoutSec fuel stepIndex final)
        (turns u world' executor' maxSteps stallTimeoutSec fuel stepIndex final) (SameResult Agree)
        (SameResult Agree) s t
  | 0, _, _, s, t, hst => .pure ⟨rfl, hmirrors.pace.agree s t hst⟩
  | fuel + 1, stepIndex, final, s, t, hst => by
    have hlost := hmirrors.lost
    have hlost' := hmirrors.lost'
    have hturns := coupled_turns maxSteps stallTimeoutSec fuel
    have hagree := hmirrors.pace.agree s t hst
    rw [turns, turns]
    by_cases hcap : maxSteps ≤ stepIndex
    · rw [if_pos hcap, if_pos hcap]
      exact .pure ⟨rfl, hagree⟩
    rw [if_neg hcap, if_neg hcap]
    refine Coupled.bind ((hmirrors.pace.act houtside stallTimeoutSec hst).mono (fun _ _ _ _ h ↦ h)
      (SameResult.mono hmirrors.pace.agree)) ?_ ?_ ?_
    · rintro _ s₁ (text | actions) t₁ ⟨rfl, hst₁⟩
      · exact .pure ⟨rfl, hmirrors.pace.agree s₁ t₁ hst₁⟩
      refine Coupled.bind (coupled_executeBatch hmirrors houtside actions _ s₁ t₁ hst₁) ?_
        (remains_afterBatch hlost (remains_turns hlost _ _ fuel) actions stepIndex final)
        (remains_afterBatch hlost' (remains_turns hlost' _ _ fuel) actions stepIndex final)
      rintro _ s₂ batch t₂ ⟨rfl, hagree₂, hrelated₂⟩
      dsimp only
      by_cases hidle : actions.isEmpty = true
      · -- a turn without an action is reported first
        rw [if_pos hidle, if_pos hidle]
        have hpace := hmirrors.pace.unless batch.terminal
        refine Coupled.bind ((hpace.tell houtside _ ⟨hagree₂, hrelated₂⟩).mono (fun _ _ _ _ h ↦ h)
          (SameResult.mono hpace.agree)) ?_
          (fun _ ↦ .bind (remains_report hlost _ _ _) fun _ ↦
            .ite (remains_finish _ _ _) (remains_turns hlost _ _ _ _ _))
          fun _ ↦ .bind (remains_report hlost' _ _ _) fun _ ↦
            .ite (remains_finish _ _ _) (remains_turns hlost' _ _ _ _ _)
        rintro ⟨⟩ s₃ ⟨⟩ t₃ ⟨-, hagree₃, hrelated₃⟩
        exact coupled_afterBatch hmirrors houtside batch hturns stepIndex _ _ hagree₃ hrelated₃
      · rw [if_neg hidle, if_neg hidle]
        exact coupled_afterBatch hmirrors houtside batch hturns stepIndex _ _ hagree₂ hrelated₂
    · rintro (text | actions)
      · exact .pure _
      · exact .bind (remains_executeBatch hlost actions _)
          (remains_afterBatch hlost (remains_turns hlost _ _ fuel) actions stepIndex final)
    · rintro (text | actions)
      · exact .pure _
      · exact .bind (remains_executeBatch hlost' actions _)
          (remains_afterBatch hlost' (remains_turns hlost' _ _ fuel) actions stepIndex final)

theorem coupled_setup (hst : related s t) :
    Coupled x (setup world executor) (setup world' executor') (SameResult related) (SameResult Agree) s t := by
  have hpace := hmirrors.pace
  have hreset : ∀ answer, related (s.push (.reset answer)) (t.push (.reset answer)) := fun answer ↦
    hpace.push s t _ rfl rfl hst
  have horRaise : ∀ (answer : Answer RawEnvOutput) (s : Rollout A σ) (t : Rollout A τ), related s t →
      Coupled x (answer.orRaise EnvError.raw) (answer.orRaise EnvError.raw) (SameResult related) (SameResult Agree)
        s t := by
    rintro ((_ | error) | output) s t hst
    · exact .throw ⟨rfl, hpace.agree s t hst⟩
    · exact .throw ⟨rfl, hpace.agree s t hst⟩
    · exact .pure ⟨rfl, hst⟩
  refine Coupled.tryCatch (E := SameResult Agree) ?_ ?_ ?_ (fun _ ↦ .throw _) fun _ ↦ .throw _
  · refine Coupled.bind (E := _) (coupled_perform (houtside.reset (hpace.agree s t hst).seen)) ?_ ?_ ?_
    · rintro _ _ answer _ ⟨rfl, rfl, rfl⟩
      refine Coupled.bind (horRaise answer _ _ (hreset answer)) ?_
        (fun _ ↦ .bind hmirrors.lost.provision fun _ ↦ .pure _)
        fun _ ↦ .bind hmirrors.lost'.provision fun _ ↦ .pure _
      rintro _ s₁ output t₁ ⟨rfl, hst₁⟩
      refine Coupled.bind (hmirrors.provision s₁ t₁ hst₁) ?_ (fun _ ↦ .pure _) fun _ ↦ .pure _
      rintro ⟨⟩ s₂ ⟨⟩ t₂ ⟨-, hst₂⟩
      exact .pure ⟨rfl, hst₂⟩
    · exact fun answer ↦ .bind (remains_orRaise _ answer) fun _ ↦
        .bind hmirrors.lost.provision fun _ ↦ .pure _
    · exact fun answer ↦ .bind (remains_orRaise _ answer) fun _ ↦
        .bind hmirrors.lost'.provision fun _ ↦ .pure _
  · rintro _ s₁ error t₁ ⟨rfl, hagree⟩
    exact .throw ⟨rfl, hagree⟩
  · intro error hescapes
    obtain ⟨actionIndex, diagnostic, rfl⟩ := hmirrors.escapes error hescapes
    rfl

/-- **The loop mirrors its executor.**  It ends the same way, having asked the same and kept the same
action chain. -/
theorem coupled_runTaskLoop (maxSteps : ℕ) (stallTimeoutSec : ℚ) (hst : related s t) :
    Coupled x (runTaskLoop u world executor maxSteps stallTimeoutSec)
      (runTaskLoop u world' executor' maxSteps stallTimeoutSec) (SameResult Agree) (SameResult Agree) s t := by
  have hlost := hmirrors.lost
  have hlost' := hmirrors.lost'
  refine Coupled.tryCatch (E := SameResult Agree) ?_ ?_ ?_ ?_ ?_
  · refine Coupled.bind (coupled_setup hmirrors houtside hst) ?_
      (fun _ ↦ .bind (remains_askPolicy hlost _ _) fun _ ↦ remains_turns hlost _ _ _ _ _)
      fun _ ↦ .bind (remains_askPolicy hlost' _ _) fun _ ↦ remains_turns hlost' _ _ _ _ _
    rintro _ s₁ initial t₁ ⟨rfl, hst₁⟩
    have hpace := hmirrors.pace
    refine Coupled.bind ((hpace.askPolicy (fun _ ↦ ⟨rfl, rfl⟩)
      (houtside.policyReset initial (hpace.agree s₁ t₁ hst₁).seen) hst₁).mono (fun _ _ _ _ h ↦ h)
      (SameResult.mono hpace.agree)) ?_
      (fun _ ↦ remains_turns hlost _ _ _ _ _) fun _ ↦ remains_turns hlost' _ _ _ _ _
    rintro ⟨⟩ s₂ ⟨⟩ t₂ ⟨-, hst₂⟩
    exact coupled_turns hmirrors houtside maxSteps stallTimeoutSec maxSteps 0 none s₂ t₂ hst₂
  · rintro _ s₁ error t₁ ⟨rfl, hagree⟩
    cases error <;> first | exact .pure ⟨rfl, hagree⟩ | exact .throw ⟨rfl, hagree⟩
  · intro error hescapes
    obtain ⟨actionIndex, diagnostic, rfl⟩ := hmirrors.escapes error hescapes
    rfl
  · refine remains_handler ?_
    rintro (_ | _) <;> first | exact Or.inl ⟨_, rfl⟩ | exact Or.inr ⟨_, rfl⟩
  · refine remains_handler ?_
    rintro (_ | _) <;> first | exact Or.inl ⟨_, rfl⟩ | exact Or.inr ⟨_, rfl⟩

end Mirrors

end HarnessTraining
