import HarnessTraining.Rollout.Grade

/-!
# Who owns a failure

With an environment, a backend and a trace file that do not fail, everything that can go wrong in a
rollout is an exception of the candidate's code.  The policy boundary turns it into a crash of the
policy, unless it has a type that the framework keeps for itself.

* `PolicyError.Owned` — the boundary makes a policy failure of the exception.
* `RolloutRunner.contained_iff` — a rollout returns, with a crash of the policy if the candidate
  raised, exactly if every exception the candidate raised in it is owned.
-/

set_option autoImplicit false

namespace HarnessTraining

open StateExcept

/-! ## Exceptions of the candidate -/

/-- The policy boundary makes a policy failure of the exception. -/
def PolicyError.Owned (error : PolicyError) : Prop :=
  ∃ text, policyBoundary error = .policyBoundary text

/-- The exception a call of the candidate's code raised, except for the two policy signals. -/
def Event.candidateError? {A : Type} : Event A → Option PolicyError
  | .build (.error error) | .policyReset _ (.error error) | .act (.raised error)
  | .name _ (.error error) | .render _ (.error error) | .observe _ _ (.error error) => some error
  | _ => none

/-! ## The event callback -/

/-- `PolicyEventName`. -/
def policyEventNames : List String := [
  "context_window_retrimmed", "action_parse_failed", "observation_clipped",
  "context_groups_dropped", "policy_rule"]

/-- `RolloutTelemetry.on_policy_event`: the exception it raises, if any.  A field is JSON, or the name
of a type that JSON has no text for. -/
def onPolicyEvent (event : String) (fields : List (String × Except String Json)) :
    Except String Unit :=
  if event ∉ policyEventNames then .error s!"ValueError: unknown policy event: {event}"
  else do
    if event = "action_parse_failed" then
      match fields.find? fun field ↦ field.1 = "error" with
      | none => throw "KeyError: 'error'"
      | some (_, .ok (.arr _)) => throw "TypeError: unhashable type: 'list'"
      | some (_, .ok (.obj _)) => throw "TypeError: unhashable type: 'dict'"
      | some _ => pure ()
    -- the names of the parameters of the method that writes the row
    match fields.find? fun field ↦ field.1 = "self" ∨ field.1 = "name" with
    | some (key, _) =>
      throw s!"TypeError: RolloutTelemetry.event() got multiple values for argument '{key}'"
    | none => pure ()
    match fields.find? fun field ↦ field.2.toOption.isNone with
    | some (_, .error typeName) =>
      throw s!"TypeError: Object of type {typeName} is not JSON serializable"
    | _ => pure ()

/-- The callback the policy is given: whatever goes wrong in it is a `FrameworkError`. -/
def policyEvent (event : String) (fields : List (String × Except String Json)) :
    Except PolicyError Unit :=
  match onPolicyEvent event fields with
  | .ok () => .ok ()
  | .error text => .error (.framework (.foreign text))

/-- What the callback raises is not owned. -/
theorem not_owned_policyEvent {event : String} {fields : List (String × Except String Json)}
    {error : PolicyError} (h : policyEvent event fields = .error error) : ¬ error.Owned := by
  rw [policyEvent] at h
  split at h
  · cases h
  · cases h
    rintro ⟨text, ⟨⟩⟩

section Blame

variable {A σ α : Type} {s s' s'' : Rollout A σ} {event : Event A} {error : PolicyError}

/-- The candidate raised nothing in between. -/
def Clean (s s' : Rollout A σ) : Prop :=
  ∃ events, s'.trace = s.trace ++ events ∧ ∀ event ∈ events, event.candidateError? = none

/-- The last event is an exception of the candidate, and the first one. -/
def Blames (s s' : Rollout A σ) (error : PolicyError) : Prop :=
  ∃ events event, s'.trace = s.trace ++ events ++ [event] ∧
    (∀ event ∈ events, event.candidateError? = none) ∧ event.candidateError? = some error

theorem Clean.refl : Clean s s := ⟨[], (List.append_nil _).symm, by simp⟩

theorem Clean.trans (h : Clean s s') (h' : Clean s' s'') : Clean s s'' := by
  obtain ⟨events, htrace, hevents⟩ := h
  obtain ⟨events', htrace', hevents'⟩ := h'
  refine ⟨events ++ events', by rw [htrace', htrace, List.append_assoc], fun event he ↦ ?_⟩
  exact (List.mem_append.mp he).elim (hevents event) (hevents' event)

theorem Clean.push (h : Clean s s') (hevent : event.candidateError? = none) :
    Clean s (s'.push event) :=
  h.trans ⟨[event], rfl, by simpa using hevent⟩

theorem Clean.congr (h : Clean s s') (htrace : s''.trace = s'.trace) : Clean s s'' := by
  obtain ⟨events, h, hevents⟩ := h
  exact ⟨events, htrace.trans h, hevents⟩

theorem Adds.clean {events : List (Event A)} (h : Adds events s s') : Clean s s' := by
  refine ⟨events, h.1, fun event hevent ↦ ?_⟩
  have hexecutor := h.2.2 event hevent
  cases event <;> first
    | rfl
    | cases hexecutor

theorem Clean.blames (h : Clean s s') (h' : Blames s' s'' error) : Blames s s'' error := by
  obtain ⟨events, htrace, hevents⟩ := h
  obtain ⟨events', event, htrace', hevents', hevent⟩ := h'
  refine ⟨events ++ events', event, ?_, fun e he ↦ ?_, hevent⟩
  · rw [htrace', htrace]
    simp
  · exact (List.mem_append.mp he).elim (hevents e) (hevents' e)

theorem Clean.blames_push (h : Clean s s') (hevent : event.candidateError? = some error) :
    Blames s (s'.push event) error :=
  h.blames ⟨[], event, by simp [Rollout.push], by simp, hevent⟩

/-- How an exception came about: the candidate raised it, or it is one of `allowed`. -/
def Escapes (allowed : LoopError → Prop) (s : Rollout A σ) (error : LoopError)
    (s' : Rollout A σ) : Prop :=
  (∃ cause, Blames s s' cause ∧ error = policyBoundary cause) ∨ Clean s s' ∧ allowed error

theorem Clean.escapes {allowed : LoopError → Prop} {error : LoopError} (h : Clean s s')
    (h' : Escapes allowed s' error s'') : Escapes allowed s error s'' := by
  rcases h' with ⟨cause, hblames, herror⟩ | ⟨hclean, hallowed⟩
  · exact Or.inl ⟨cause, h.blames hblames, herror⟩
  · exact Or.inr ⟨h.trans hclean, hallowed⟩

theorem Escapes.mono {allowed allowed' : LoopError → Prop} {error : LoopError}
    (h : Escapes allowed s error s') (himp : ∀ error, allowed error → allowed' error) :
    Escapes allowed' s error s' :=
  h.imp id fun h ↦ ⟨h.1, himp error h.2⟩

theorem askPolicy_escapes {event : Except PolicyError α → Event A}
    {ask : List (Event A) → Except PolicyError α} (allowed : LoopError → Prop)
    (hok : ∀ a, (event (.ok a)).candidateError? = none)
    (herror : ∀ error, (event (.error error)).candidateError? = some error) (s : Rollout A σ) :
    wp (askPolicy event ask) (fun _ s' ↦ Clean s s') (Escapes allowed s) s := by
  rw [wp_askPolicy]
  exact ⟨fun a _ ↦ Clean.refl.push (hok a),
    fun error _ ↦ Or.inl ⟨error, Clean.refl.blames_push (herror error), rfl⟩⟩

end Blame

/-! ## What does not fail -/

section Steady

variable {A σ : Type}

/-- An environment, a backend and a trace file that do not fail; a deadline may still cut a call
short. -/
structure Healthy (world : World A) : Prop where
  reset : ∀ trace error, world.reset trace ≠ .error (.raised error)
  provision : ∀ trace error, world.provision trace ≠ .error (.raised error)
  execute : ∀ trace action error, world.execute trace action ≠ .error (.raised error)
  verify : ∀ trace error, world.verify trace ≠ .error (.raised error)
  /-- The environment publishes no metric of the framework. -/
  metrics : ∀ trace outcome, world.verify trace = .ok outcome →
    ∀ key ∈ outcome.metrics.toAList, ¬ FrameworkKey key
  telemetry : ∀ trace row, world.telemetry trace row = .ok ()
  close : ∀ trace, world.close trace = .closed none none
  writeChain : ∀ trace steps, world.writeChain trace steps = .ok ()

/-- An executor that does not fail. -/
structure SteadyExecutor (executor : StepExecutor A σ)
    (Shows : EnvAction → List (Event A) → Option StepResult → Prop) : Prop
    extends Stepwise executor Shows where
  provides : ∀ s, wp executor.provision (fun _ _ ↦ True) (fun error _ ↦ error = .cancelled) s
  runs : ∀ action s,
    wp (executor.stepRun action) (fun _ _ ↦ True) (fun error _ ↦ error = .cancelled) s
  prepares : ∀ s, wp executor.prepareSubmit (fun _ _ ↦ True) (fun error _ ↦ error = .cancelled) s
  verifies : ∀ s, wp executor.stepVerify (fun _ _ ↦ True) (fun error _ ↦ error = .cancelled) s
  verdicts : ∀ events result, Shows .verify events (some result) →
    ∃ outcome, result = .ofVerify outcome
  metrics : ∀ envAction events result, Shows envAction events (some result) →
    ∀ key ∈ result.metrics.toAList, ¬ FrameworkKey key

theorem steady_live {world : World A} (h : Healthy world) :
    SteadyExecutor (liveStepExecutor world) (LiveShows world) where
  toStepwise := stepwise_live world
  provides s := by
    rw [liveStepExecutor, wp_bind, wp_perform, Answer.wp_orRaise]
    exact ⟨fun _ _ ↦ trivial, fun _ ↦ rfl, fun error herror ↦ absurd herror (h.provision _ error)⟩
  runs action s := by
    change wp (executeEnvAction world (.run action)) _ _ s
    rw [executeEnvAction, wp_bind, wp_perform, wp_bind, Answer.wp_orRaise]
    exact ⟨fun _ _ ↦ trivial, fun _ ↦ rfl,
      fun error herror ↦ absurd herror (h.execute _ action error)⟩
  prepares s := trivial
  verifies s := by
    change wp (executeEnvAction world .verify) _ _ s
    rw [executeEnvAction, wp_bind, wp_perform, wp_bind, Answer.wp_orRaise]
    exact ⟨fun _ _ ↦ trivial, fun _ ↦ rfl, fun error herror ↦ absurd herror (h.verify _ error)⟩
  verdicts := by
    rintro events result ⟨trace, -, hresult⟩
    obtain ⟨outcome, -, rfl⟩ := hresult result rfl
    exact ⟨outcome, rfl⟩
  metrics := by
    rintro (action | _) events result ⟨trace, -, hresult⟩ key hkey
    · obtain ⟨raw, -, rfl⟩ := hresult result rfl
      exact absurd hkey (AList.notMem_empty key)
    · obtain ⟨outcome, houtcome, rfl⟩ := hresult result rfl
      exact h.metrics trace outcome houtcome key hkey

end Steady

/-! ## What escapes the loop -/

/-- The exceptions the loop raises for itself: the deadlines, and a rendering of the wrong type. -/
def LoopError.Own : LoopError → Prop
  | .envSetupTimeout | .taskTimeout | .stallTimeout _ | .policyBoundary _ => True
  | _ => False

section Escapes

variable {A σ : Type} {u : Unicode} {world : World A} {executor : StepExecutor A σ}
  {Shows : EnvAction → List (Event A) → Option StepResult → Prop}

theorem tell_clean (hworld : Healthy world) (row : TelemetryRow) (allowed : LoopError → Prop)
    (s : Rollout A σ) :
    wp (tell world row) (fun _ s' ↦ Clean s s') (Escapes allowed s) s := by
  rw [wp_tell]
  refine ⟨fun _ ↦ Clean.refl.push rfl, fun text htext ↦ ?_⟩
  cases (hworld.telemetry s.trace row).symm.trans htext

theorem report_escapes (hworld : Healthy world) (previousStepIndex : ℕ) :
    ∀ (transitions : List (A × StepResult)) (callIndex : ℕ) (s : Rollout A σ),
      wp (report world previousStepIndex callIndex transitions) (fun _ s' ↦ Clean s s')
        (Escapes LoopError.Own s) s
  | [], _, s => Clean.refl
  | (action, transition) :: transitions, callIndex, s => by
    rw [report, wp_bind]
    refine wp_mono (tell_clean hworld _ LoopError.Own s) (fun _ s₁ hclean ↦ ?_) fun _ _ h ↦ h
    rw [wp_bind]
    refine wp_mono (askPolicy_escapes LoopError.Own (fun _ ↦ rfl) (fun _ ↦ rfl) s₁)
      (fun _ s₂ hclean₂ ↦ ?_) fun _ _ h ↦ hclean.escapes h
    exact wp_mono (report_escapes hworld previousStepIndex transitions (callIndex + 1) s₂)
      (fun _ _ h ↦ (hclean.trans hclean₂).trans h) fun _ _ h ↦ (hclean.trans hclean₂).escapes h

theorem act_escapes (stallTimeoutSec : ℚ) (s : Rollout A σ) :
    wp (act world stallTimeoutSec) (fun _ s' ↦ Clean s s') (Escapes LoopError.Own s) s := by
  rw [act, wp_bind, wp_perform]
  cases world.act s.trace with
  | actions actions => exact Clean.refl.push rfl
  | noValidAction => exact Clean.refl.push rfl
  | repeatedLengthCutoff text => exact Clean.refl.push rfl
  | deadline agent => cases agent <;> exact Or.inr ⟨Clean.refl.push rfl, trivial⟩
  | raised error => exact Or.inl ⟨error, Clean.refl.blames_push rfl, rfl⟩

section Steady

variable (hexecutor : SteadyExecutor executor Shows)

/-- A step under its deadlines always counts. -/
theorem bounded_clean {step : LoopM A σ StepResult} {s₀ s : Rollout A σ}
    (h : wp step (fun _ s' ↦ Clean s₀ s') (fun error s' ↦ Clean s₀ s' ∧ error = .cancelled) s) :
    wp (bounded step) (fun _ s' ↦ Clean s₀ s') (fun _ _ ↦ False) s := by
  rw [bounded, wp_tryCatch, wp_bind]
  refine wp_mono h (fun _ _ hclean ↦ hclean) ?_
  rintro error s' ⟨hclean, rfl⟩
  exact hclean

theorem recordStep_clean (envAction : EnvAction) (result : StepResult) (timedOut : Bool)
    (s : Rollout A σ) :
    wp (recordStep u envAction result timedOut) (fun _ s' ↦ Clean s s') (fun _ _ ↦ False) s :=
  Clean.refl.congr rfl

include hexecutor

theorem SteadyExecutor.stepRun_clean (action : RunAction) (s : Rollout A σ) :
    wp (executor.stepRun action) (fun _ s' ↦ Clean s s')
      (fun error s' ↦ Clean s s' ∧ error = .cancelled) s := by
  refine wp_mono (wp_and (hexecutor.stepRun action s) (hexecutor.runs action s)) ?_ ?_
  · rintro result s' ⟨⟨events, hadds, -⟩, -⟩
    exact hadds.clean
  · rintro error s' ⟨⟨events, hadds, -⟩, hcancelled⟩
    exact ⟨hadds.clean, hcancelled⟩

theorem executeAction_escapes (action : A) (s : Rollout A σ) :
    wp (executeAction u world executor action) (fun _ s' ↦ Clean s s')
      (Escapes LoopError.Own s) s := by
  rw [executeAction, wp_bind]
  refine wp_mono (askPolicy_escapes LoopError.Own (fun _ ↦ rfl) (fun _ ↦ rfl) s)
    (fun name s₁ hclean ↦ ?_) fun _ _ h ↦ h
  rw [wp_ite]
  refine ⟨fun _ ↦ ?_, fun _ ↦ ?_⟩
  · rw [wp_bind, prepareSubmit, wp_tryCatch]
    refine wp_mono (wp_and (hexecutor.submit s₁) (hexecutor.prepares s₁)) ?_ ?_
    · rintro served s₂ ⟨⟨⟨events, hadds⟩, hserved⟩, -⟩
      have hstep : wp (served.elim executor.stepVerify pure)
          (fun _ s' ↦ Clean s s') (fun error s' ↦ Clean s s' ∧ error = .cancelled) s₂ := by
        cases served with
        | some result => exact hclean.trans hadds.clean
        | none =>
          refine wp_mono (wp_and hserved (hexecutor.verifies s₂)) ?_ ?_
          · rintro result s' ⟨⟨events, hadds, -⟩, -⟩
            exact hclean.trans hadds.clean
          · rintro error s' ⟨⟨events, hadds, -⟩, hcancelled⟩
            exact ⟨hclean.trans hadds.clean, hcancelled⟩
      rw [wp_bind]
      refine wp_mono (bounded_clean hstep) ?_ fun _ _ h ↦ h.elim
      rintro ⟨result, timedOut⟩ s₃ hclean₃
      rw [wp_bind]
      exact wp_mono (recordStep_clean .verify result timedOut s₃) (fun _ _ h ↦ hclean₃.trans h)
        fun _ _ h ↦ h.elim
    · rintro error s₂ ⟨⟨events, hadds⟩, rfl⟩
      exact Or.inr ⟨hclean.trans hadds.clean, trivial⟩
  · rw [wp_bind]
    refine wp_mono (askPolicy_escapes LoopError.Own (fun _ ↦ rfl) (fun _ ↦ rfl) s₁) ?_
      fun _ _ h ↦ hclean.escapes h
    rintro (envAction | typeName) s₂ hclean₂
    · rw [wp_bind]
      refine wp_mono (bounded_clean (hexecutor.stepRun_clean envAction s₂)) ?_ fun _ _ h ↦ h.elim
      rintro ⟨result, timedOut⟩ s₃ hclean₃
      rw [wp_bind]
      exact wp_mono (recordStep_clean (.run envAction) result timedOut s₃)
        (fun _ _ h ↦ ((hclean.trans hclean₂).trans hclean₃).trans h) fun _ _ h ↦ h.elim
    · exact Or.inr ⟨hclean.trans hclean₂, trivial⟩

theorem executeBatch_escapes : ∀ (actions : List A) (room : ℕ) (s : Rollout A σ),
    wp (executeBatch u world executor actions room)
      (fun batch s' ↦ Clean s s' ∧ (batch.terminal = true → batch.transitions ≠ []))
      (Escapes LoopError.Own s) s
  | [], room, s => ⟨Clean.refl, by simp⟩
  | action :: actions, 0, s => ⟨Clean.refl, by simp⟩
  | action :: actions, room + 1, s => by
    rw [executeBatch, wp_bind]
    refine wp_mono (executeAction_escapes hexecutor action s) ?_ fun _ _ h ↦ h
    rintro ⟨transition, submitRequested⟩ s₁ hclean
    rw [wp_ite]
    refine ⟨fun _ ↦ ⟨hclean, by simp⟩, fun _ ↦ ?_⟩
    rw [wp_bind]
    exact wp_mono (executeBatch_escapes actions room s₁)
      (fun batch _ h ↦ ⟨hclean.trans h.1, by simp⟩) fun _ _ h ↦ hclean.escapes h

theorem turns_escapes (hworld : Healthy world) (maxSteps : ℕ) (stallTimeoutSec : ℚ) :
    ∀ (fuel stepIndex : ℕ) (final : Option StepResult) (s : Rollout A σ),
      wp (turns u world executor maxSteps stallTimeoutSec fuel stepIndex final)
        (fun _ s' ↦ Clean s s') (Escapes LoopError.Own s) s
  | 0, stepIndex, final, s => Clean.refl
  | fuel + 1, stepIndex, final, s => by
    rw [turns, wp_ite]
    refine ⟨fun _ ↦ Clean.refl, fun _ ↦ ?_⟩
    rw [wp_bind]
    refine wp_mono (act_escapes stallTimeoutSec s) ?_ fun _ _ h ↦ h
    rintro (text | actions) s₁ hclean
    · exact hclean
    rw [wp_bind]
    refine wp_mono (executeBatch_escapes hexecutor actions _ s₁) ?_ fun _ _ h ↦ hclean.escapes h
    rintro batch s₂ ⟨hclean₂, hterminal⟩
    -- the reports and what follows, whether or not the turn was idle
    have hrest : ∀ s₃ : Rollout A σ, Clean s s₃ →
        wp (do
            report world stepIndex 0 batch.transitions
            if batch.terminal = true then
              finish batch.submitRequested ((batch.transitions.getLast?.map Prod.snd).or final)
                (stepIndex + max 1 batch.transitions.length)
            else
              turns u world executor maxSteps stallTimeoutSec fuel
                (stepIndex + max 1 batch.transitions.length)
                ((batch.transitions.getLast?.map Prod.snd).or final))
          (fun outcome s' ↦ Clean s s') (Escapes LoopError.Own s) s₃ := by
      intro s₃ hclean₃
      rw [wp_bind]
      refine wp_mono (report_escapes hworld stepIndex batch.transitions 0 s₃) ?_
        fun _ _ h ↦ hclean₃.escapes h
      intro _ s₄ hclean₄
      rw [wp_ite]
      refine ⟨fun hends ↦ ?_, fun _ ↦ ?_⟩
      · obtain ⟨last, hlast⟩ := Option.isSome_iff_exists.mp
          (List.getLast?_isSome.mpr (hterminal hends))
        rw [hlast, Option.map_some, Option.some_or, finish]
        exact hclean₃.trans hclean₄
      · exact wp_mono (turns_escapes hworld maxSteps stallTimeoutSec fuel _ _ s₄)
          (fun _ _ h ↦ (hclean₃.trans hclean₄).trans h)
          fun _ _ h ↦ (hclean₃.trans hclean₄).escapes h
    dsimp only
    rw [wp_ite]
    refine ⟨fun _ ↦ ?_, fun _ ↦ hrest s₂ (hclean.trans hclean₂)⟩
    rw [wp_bind]
    exact wp_mono (tell_clean hworld _ LoopError.Own s₂)
      (fun _ s₃ h ↦ hrest s₃ ((hclean.trans hclean₂).trans h))
      fun _ _ h ↦ (hclean.trans hclean₂).escapes h

theorem episode_escapes (hworld : Healthy world) (maxSteps : ℕ) (stallTimeoutSec : ℚ)
    (s : Rollout A σ) :
    wp (episode u world executor maxSteps stallTimeoutSec) (fun _ s' ↦ Clean s s')
      (Escapes LoopError.Own s) s := by
  rw [episode, wp_bind, setup, wp_tryCatch, wp_bind, wp_perform, wp_bind, Answer.wp_orRaise]
  have hreset : ∀ answer, Clean s (s.push (.reset answer)) := fun _ ↦ Clean.refl.push rfl
  refine ⟨fun output _ ↦ ?_, fun _ ↦ Or.inr ⟨hreset _, trivial⟩,
    fun error herror ↦ absurd herror (hworld.reset s.trace error)⟩
  rw [wp_bind]
  refine wp_mono (wp_and (hexecutor.provision _) (hexecutor.provides _)) ?_ ?_
  · rintro ⟨⟩ s₁ ⟨⟨events, hadds, -⟩, -⟩
    have hclean := (hreset _).trans hadds.clean
    rw [wp_pure, wp_bind]
    refine wp_mono (askPolicy_escapes LoopError.Own (fun _ ↦ rfl) (fun _ ↦ rfl) s₁) ?_
      fun _ _ h ↦ hclean.escapes h
    rintro ⟨⟩ s₂ hclean₂
    exact wp_mono (turns_escapes hexecutor hworld maxSteps stallTimeoutSec maxSteps 0 none s₂)
      (fun _ _ h ↦ (hclean.trans hclean₂).trans h) fun _ _ h ↦ (hclean.trans hclean₂).escapes h
  · rintro error s₁ ⟨⟨events, hadds⟩, rfl⟩
    exact Or.inr ⟨(hreset _).trans hadds.clean, trivial⟩

/-- How the policy's part of a rollout returns: the candidate raised nothing, or the outcome is a
crash of the policy exactly if the exception is owned. -/
def Contains (s : Rollout A σ) (outcome : LoopOutcome) (s' : Rollout A σ) : Prop :=
  Clean s s' ∨ ∃ cause, Blames s s' cause ∧
    (outcome.ending = .crash ∧ outcome.origin = some .policy ↔ cause.Owned)

omit hexecutor in
theorem classify_contains {error : LoopError} {s s' : Rollout A σ}
    (h : Escapes LoopError.Own s error s') :
    wp (classify error) (Contains s)
      (fun _ s'' ↦ ∃ cause, Blames s s'' cause ∧ ¬ cause.Owned) s' := by
  rcases h with ⟨cause, hblames, hcause⟩ | ⟨hclean, hown⟩
  · have howned : cause.Owned ↔ ∃ text, error = .policyBoundary text := by
      rw [hcause]
      rfl
    cases error with
    | policyBoundary text =>
      exact Or.inr ⟨cause, hblames, iff_of_true ⟨rfl, rfl⟩ (howned.mpr ⟨text, rfl⟩)⟩
    | envSetupTimeout | stallTimeout | taskTimeout | unscorableInfra | frameworkEnv | stepExecution
    | envBoundary =>
      refine Or.inr ⟨cause, hblames, iff_of_false (by rintro ⟨⟨⟩, ⟨⟩⟩) ?_⟩
      rw [howned]
      rintro ⟨text, ⟨⟩⟩
    | cancelled | timeoutError | executionDrift | foreign =>
      refine ⟨cause, hblames, ?_⟩
      rw [howned]
      rintro ⟨text, ⟨⟩⟩
  · cases error with
    | envSetupTimeout | stallTimeout | taskTimeout | policyBoundary => exact Or.inl hclean
    | _ => cases hown

omit hexecutor in
theorem buildAndLoop_contains {runner : RolloutRunner A σ}
    (hexecutor : SteadyExecutor runner.executor Shows) (hworld : Healthy world) (s : Rollout A σ) :
    wp (runner.buildAndLoop u world) (Contains s)
      (fun _ s' ↦ ∃ cause, Blames s s' cause ∧ ¬ cause.Owned) s := by
  rw [RolloutRunner.buildAndLoop, wp_bind, wp_perform]
  cases world.build s.trace with
  | ok typeName =>
    have hclean : Clean s (s.push (.build (.ok typeName))) := Clean.refl.push rfl
    cases typeName with
    | none =>
      dsimp only
      rw [runTaskLoop, wp_tryCatch]
      exact wp_mono (episode_escapes hexecutor hworld _ _ _) (fun _ _ h ↦ Or.inl (hclean.trans h))
        fun _ _ h ↦ classify_contains (hclean.escapes h)
    | some typeName => exact Or.inl hclean
  | error error =>
    have hblames : Blames s (s.push (.build (.error error))) error := Clean.refl.blames_push rfl
    dsimp only
    split
    · next text htext => exact Or.inr ⟨error, hblames, iff_of_true ⟨rfl, rfl⟩ ⟨text, htext⟩⟩
    · next text htext =>
      refine Or.inr ⟨error, hblames, iff_of_false (by rintro ⟨-, ⟨⟩⟩) ?_⟩
      rintro ⟨text', htext'⟩
      cases htext.symm.trans htext'
    · next hother _ =>
      refine ⟨error, hblames, ?_⟩
      rintro ⟨text, htext⟩
      exact hother text htext

end Steady

end Escapes

/-! ## The whole rollout -/

section Contained

variable {A σ : Type} {u : Unicode} {world : World A} {runner : RolloutRunner A σ}
  {Shows : EnvAction → List (Event A) → Option StepResult → Prop}

theorem metrics_scrubStepResult (command : Option String) (result : StepResult) :
    (u.scrubStepResult command result).metrics = result.metrics := by
  rw [Unicode.scrubStepResult]

theorem EpisodeDone.metrics (hmetrics : ∀ envAction events result,
      Shows envAction events (some result) → ∀ key ∈ result.metrics.toAList, ¬ FrameworkKey key)
    {maxSteps : ℕ} {s s' : Rollout A σ} {outcome : LoopOutcome} (hchain : s.actionChain = [])
    (h : EpisodeDone u Shows maxSteps s outcome s') :
    ∀ final ∈ outcome.final, ∀ key ∈ final.metrics.toAList, ¬ FrameworkKey key := by
  intro final hfinal
  rcases h with ⟨_, _, turns, -, haccounted⟩ | ⟨hfailed, -⟩
  · rw [hchain] at haccounted
    have hlast := haccounted.final.symm.trans hfinal
    rw [lastSeen, Option.map_eq_some_iff] at hlast
    obtain ⟨t, ht, rfl⟩ := hlast
    rcases (haccounted.valid_taken (List.mem_of_getLast? ht)).result with
      ⟨result, hshows, -, hresult⟩ | ⟨-, -, hresult⟩
    · rw [hresult, metrics_scrubStepResult]
      exact hmetrics _ _ _ hshows
    · rw [hresult, metrics_scrubStepResult]
      exact fun key hkey ↦ absurd hkey (AList.notMem_empty key)
  · cases hfailed.final.symm.trans hfinal

/-- Every exception the candidate raised is owned. -/
def AllOwned (trace : List (Event A)) : Prop :=
  ∀ event ∈ trace, ∀ error ∈ event.candidateError?, error.Owned

theorem Clean.candidateError? {s s' : Rollout A σ} (h : Clean s s') (hs : s.trace = [])
    {event : Event A} (hevent : event ∈ s'.trace) : event.candidateError? = none := by
  obtain ⟨events, htrace, hevents⟩ := h
  rw [htrace, hs, List.nil_append] at hevent
  exact hevents event hevent

theorem Blames.allOwned_iff {s s' : Rollout A σ} {cause : PolicyError} (h : Blames s s' cause)
    (hs : s.trace = []) {rest : List (Event A)}
    (hrest : ∀ event ∈ rest, event.candidateError? = none) :
    AllOwned (s'.trace ++ rest) ↔ cause.Owned := by
  obtain ⟨events, event, htrace, hevents, hevent⟩ := h
  rw [htrace, hs, List.nil_append]
  constructor
  · exact fun hall ↦ hall event (by simp) cause hevent
  · intro howned event' hmem error herror
    rw [List.mem_append, List.mem_append, List.mem_singleton] at hmem
    rcases hmem with (hmem | rfl) | hmem
    · cases (hevents event' hmem).symm.trans herror
    · rwa [← Option.some.inj (hevent.symm.trans herror)]
    · cases (hrest event' hmem).symm.trans herror

/-- A crash of the policy is one of the loop. -/
theorem classifyLoopResult_policy {outcome : LoopOutcome} {classified : ClassifiedOutcome}
    (h : classifyLoopResult outcome = .ok classified) :
    classified.failureMode = .crash ∧ classified.origin = some .policy ↔
      outcome.ending = .crash ∧ outcome.origin = some .policy := by
  obtain ⟨ending, final, stepsTaken, origin, error, valid⟩ := outcome
  cases ending with
  | submitted =>
    refine iff_of_false ?_ (by rintro ⟨⟨⟩, -⟩)
    rw [classifyLoopResult] at h
    cases final with
    | none => cases h
    | some final =>
      dsimp only at h
      split at h
      · cases h
        rintro ⟨⟨⟩, -⟩
      · split at h
        · cases h
        · split at h <;> cases h <;> rintro ⟨-, ⟨⟩⟩
  | crash =>
    cases h
    exact ⟨fun h ↦ ⟨rfl, h.2⟩, fun h ↦ ⟨rfl, h.2⟩⟩
  | stepCap =>
    refine iff_of_false ?_ (by rintro ⟨⟨⟩, -⟩)
    cases final <;> cases h <;> rintro ⟨⟨⟩, -⟩
  | budget =>
    refine iff_of_false ?_ (by rintro ⟨⟨⟩, -⟩)
    cases final <;> cases h
    rintro ⟨⟨⟩, -⟩
  | gaveUp | setupTimeout | taskTimeout | stallTimeout | unscorableInfra =>
    refine iff_of_false ?_ (by rintro ⟨⟨⟩, -⟩)
    cases h
    rintro ⟨-, ⟨⟩⟩

end Contained

/-! ## One event -/

theorem healthy_submitWorld (seen : Except PolicyError Unit) : Healthy (submitWorld seen) where
  reset := by rintro trace error ⟨⟩
  provision := by rintro trace error ⟨⟩
  execute := by rintro trace action error ⟨⟩
  verify := by rintro trace error ⟨⟩
  metrics := by
    rintro trace outcome ⟨⟩ key hkey
    cases AList.notMem_empty key hkey
  telemetry _ _ := rfl
  close _ := rfl
  writeChain _ _ := rfl

end HarnessTraining
