import HarnessTraining.Rollout.Episode

/-!
# Episode accounting

What a run of the episode loop leaves behind: its trace is a sequence of *turns*.  A turn asks the
policy, executes the whole batch, and only then reports each transition of it, as a telemetry row and
to the policy.

* `Turn.events`, `traceOf` — the trace of a turn, and of a sequence of turns.
* `Stepwise` — what the loop needs of an executor: it adds events of its own and nothing else.
* `executeAction_spec`, `executeBatch_spec`, `report_spec`, `turns_spec` — what one action, one batch
  and the whole loop do.
* `runTaskLoop_spec` — every run that returns a step count is a sequence of turns, and every other
  one has not observed the end of an episode.
-/

set_option autoImplicit false

namespace HarnessTraining

open StateExcept

section Rules

variable {A σ α : Type} {world : World A} {Q : α → Rollout A σ → Prop}
  {E : LoopError → Rollout A σ → Prop} {s : Rollout A σ}

theorem wp_askPolicy {event : Except PolicyError α → Event A}
    {ask : List (Event A) → Except PolicyError α} :
    wp (askPolicy event ask) Q E s ↔
      (∀ a, ask s.trace = .ok a → Q a (s.push (event (.ok a)))) ∧
      ∀ error, ask s.trace = .error error → E (policyBoundary error) (s.push (event (.error error))) := by
  rw [askPolicy, wp_bind, wp_perform]
  cases ask s.trace <;> simp

theorem wp_tell {row : TelemetryRow} {Q : Unit → Rollout A σ → Prop} :
    wp (tell world row) Q E s ↔
      (world.telemetry s.trace row = .ok () → Q () (s.push (.telemetry row (.ok ())))) ∧
      ∀ text, world.telemetry s.trace row = .error text →
        E (.foreign text) (s.push (.telemetry row (.error text))) := by
  rw [tell, wp_bind, wp_perform]
  cases world.telemetry s.trace row <;> simp

/-- A step that is cut short is a transition of its own. -/
theorem bounded_spec {step : LoopM A σ StepResult} {P : Option StepResult → Rollout A σ → Prop}
    {R : Rollout A σ → Prop}
    (h : wp step (fun result s' ↦ P (some result) s')
      (fun error s' ↦ R s' ∧ (error = .cancelled → P none s')) s) :
    wp (bounded step)
      (fun result s' ↦ result.2 = false ∧ P (some result.1) s' ∨
        result = (.timedOut, true) ∧ P none s')
      (fun _ s' ↦ R s') s := by
  rw [bounded, wp_tryCatch, wp_bind]
  refine wp_mono h (fun result s' hresult ↦ Or.inl ⟨rfl, hresult⟩) ?_
  rintro error s' ⟨hR, hcancelled⟩
  cases error with
  | cancelled => exact Or.inr ⟨rfl, hcancelled rfl⟩
  | _ => exact hR

end Rules

/-! ## Events -/

namespace Event

variable {A : Type}

/-- The events of an executor. -/
def ofExecutor : Event A → Bool
  | .provision _ | .execute _ _ | .verify _ | .writeVerifyArtifacts _ _ | .get _ _ | .put _ _ _
  | .elapsed _ => true
  | _ => false

def isObserve : Event A → Bool
  | .observe _ _ _ => true
  | _ => false

/-- The events of a batch that is executed. -/
def ofBatch : Event A → Bool
  | .name _ _ | .render _ _ => true
  | event => event.ofExecutor

def isProvision : Event A → Bool
  | .provision _ => true
  | _ => false

theorem ofBatch_of_ofExecutor {event : Event A} (h : event.ofExecutor = true) :
    event.ofBatch = true := by
  cases event <;> first | rfl | cases h

theorem isObserve_of_ofBatch {event : Event A} (h : event.ofBatch = true) :
    event.isObserve = false := by
  cases event <;> first | rfl | cases h

end Event

section Traces

variable {A σ : Type} {s s' s'' : Rollout A σ} {events events' : List (Event A)} {event : Event A}

/-- An executor adds events of its own and leaves the action chain alone. -/
def Adds (events : List (Event A)) (s s' : Rollout A σ) : Prop :=
  s'.trace = s.trace ++ events ∧ s'.actionChain = s.actionChain ∧
    ∀ event ∈ events, event.ofExecutor = true

theorem Adds.refl : Adds [] s s := ⟨(List.append_nil _).symm, rfl, by simp⟩

theorem Adds.push (h : Adds events s s') (hevent : event.ofExecutor = true) :
    Adds (events ++ [event]) s (s'.push event) := by
  refine ⟨by rw [Rollout.push, h.1, List.append_assoc], h.2.1, fun e he ↦ ?_⟩
  rcases List.mem_append.mp he with he | he
  · exact h.2.2 e he
  · rwa [List.mem_singleton.mp he]

theorem Adds.trans (h : Adds events s s') (h' : Adds events' s' s'') :
    Adds (events ++ events') s s'' := by
  refine ⟨by rw [h'.1, h.1, List.append_assoc], h'.2.1.trans h.2.1, fun e he ↦ ?_⟩
  exact (List.mem_append.mp he).elim (h.2.2 e) (h'.2.2 e)

/-- Every event in between is of a kind. -/
def Only (kind : Event A → Prop) (s s' : Rollout A σ) : Prop :=
  ∃ events, s'.trace = s.trace ++ events ∧ ∀ event ∈ events, kind event

section Only

variable {kind kind' : Event A → Prop}

theorem Only.refl : Only kind s s := ⟨[], (List.append_nil _).symm, by simp⟩

theorem Only.trans (h : Only kind s s') (h' : Only kind s' s'') : Only kind s s'' := by
  obtain ⟨events, htrace, hevents⟩ := h
  obtain ⟨events', htrace', hevents'⟩ := h'
  refine ⟨events ++ events', by rw [htrace', htrace, List.append_assoc], fun event he ↦ ?_⟩
  exact (List.mem_append.mp he).elim (hevents event) (hevents' event)

theorem Only.push (h : Only kind s s') (hevent : kind event) : Only kind s (s'.push event) :=
  h.trans ⟨[event], rfl, by simpa using hevent⟩

theorem Only.congr (h : Only kind s s') (htrace : s''.trace = s'.trace) : Only kind s s'' := by
  obtain ⟨events, h, hevents⟩ := h
  exact ⟨events, htrace.trans h, hevents⟩

theorem Only.mono (h : Only kind s s') (hkind : ∀ event, kind event → kind' event) :
    Only kind' s s' := by
  obtain ⟨events, htrace, hevents⟩ := h
  exact ⟨events, htrace, fun event he ↦ hkind event (hevents event he)⟩

end Only

/-- Nothing is observed in between. -/
abbrev Silent (s s' : Rollout A σ) : Prop := Only (fun event ↦ event.isObserve = false) s s'

/-- Nothing but a batch is executed in between. -/
abbrev Executing (s s' : Rollout A σ) : Prop := Only (fun event ↦ event.ofBatch = true) s s'

theorem Executing.silent (h : Executing s s') : Silent s s' :=
  h.mono fun _ ↦ Event.isObserve_of_ofBatch

theorem Adds.executing (h : Adds events s s') : Executing s s' :=
  ⟨events, h.1, fun event he ↦ Event.ofBatch_of_ofExecutor (h.2.2 event he)⟩

theorem Adds.silent (h : Adds events s s') : Silent s s' := h.executing.silent

/-- The policy has not seen the end of the episode. -/
def EndUnseen (s : Rollout A σ) : Prop :=
  ∀ action result, Event.observe action result (.ok ()) ∈ s.trace → result.terminal = false

theorem EndUnseen.push (h : EndUnseen s) (event : Event A)
    (hevent : ∀ action result, event = .observe action result (.ok ()) → result.terminal = false) :
    EndUnseen (s.push event) := by
  intro action result hmem
  rcases List.mem_append.mp hmem with hmem | hmem
  · exact h action result hmem
  · exact hevent action result (List.mem_singleton.mp hmem).symm

theorem EndUnseen.silent (h : EndUnseen s) (hsilent : Silent s s') : EndUnseen s' := by
  obtain ⟨events, htrace, hevents⟩ := hsilent
  intro action result hmem
  rw [htrace, List.mem_append] at hmem
  rcases hmem with hmem | hmem
  · exact h action result hmem
  · cases hevents _ hmem

end Traces

/-! ## What the loop needs of an executor -/

section Stepwise

variable {A σ : Type}

/-- An executor adds events of its own, and what it adds in a step of the episode, with the result
(`none` if a deadline cut it short), satisfies `Shows`. -/
structure Stepwise (executor : StepExecutor A σ)
    (Shows : EnvAction → List (Event A) → Option StepResult → Prop) : Prop where
  provision : ∀ s, wp executor.provision
    (fun _ s' ↦ ∃ events, Adds events s s' ∧ ∀ event ∈ events, event.isProvision = true)
    (fun _ s' ↦ ∃ events, Adds events s s') s
  stepRun : ∀ action s, wp (executor.stepRun action)
    (fun result s' ↦ ∃ events, Adds events s s' ∧ Shows (.run action) events (some result))
    (fun error s' ↦ ∃ events, Adds events s s' ∧
      (error = .cancelled → Shows (.run action) events none)) s
  /-- A submit is served while it is prepared, or verified afterwards. -/
  submit : ∀ s, wp executor.prepareSubmit
    (fun served s' ↦ (∃ events, Adds events s s') ∧ match served with
      | some result => ∃ events, Adds events s s' ∧ Shows .verify events (some result)
      | none => wp executor.stepVerify
        (fun result s'' ↦ ∃ events, Adds events s s'' ∧ Shows .verify events (some result))
        (fun error s'' ↦ ∃ events, Adds events s s'' ∧
          (error = .cancelled → Shows .verify events none)) s')
    (fun _ s' ↦ ∃ events, Adds events s s') s

variable (world : World A)

/-- What the live executor shows of a step: one call of the environment, and its transition. -/
def LiveShows (envAction : EnvAction) (events : List (Event A)) (result : Option StepResult) : Prop :=
  match envAction with
  | .run action => ∃ trace, events = [.execute action (world.execute trace action)] ∧
      ∀ r, result = some r → ∃ raw, world.execute trace action = .ok raw ∧ r = .ofRun raw
  | .verify => ∃ trace, events = [.verify (world.verify trace)] ∧
      ∀ r, result = some r → ∃ outcome, world.verify trace = .ok outcome ∧ r = .ofVerify outcome

theorem executeEnvAction_spec (envAction : EnvAction) (s : Rollout A σ) :
    wp (executeEnvAction world envAction)
      (fun result s' ↦ ∃ events, Adds events s s' ∧
        LiveShows world envAction events (some result))
      (fun error s' ↦ ∃ events, Adds events s s' ∧
        (error = .cancelled → LiveShows world envAction events none)) s := by
  cases envAction with
  | run action =>
    rw [executeEnvAction, wp_bind, wp_perform, wp_bind, Answer.wp_orRaise]
    refine ⟨fun raw hraw ↦ ⟨_, Adds.refl.push rfl, s.trace, rfl, ?_⟩,
      fun _ ↦ ⟨_, Adds.refl.push rfl, fun _ ↦ ⟨s.trace, rfl, by simp⟩⟩,
      fun _ _ ↦ ⟨_, Adds.refl.push rfl, fun _ ↦ ⟨s.trace, rfl, by simp⟩⟩⟩
    rintro r hr
    exact ⟨raw, hraw, (Option.some.inj hr).symm⟩
  | verify =>
    rw [executeEnvAction, wp_bind, wp_perform, wp_bind, Answer.wp_orRaise]
    refine ⟨fun outcome houtcome ↦ ⟨_, Adds.refl.push rfl, s.trace, rfl, ?_⟩,
      fun _ ↦ ⟨_, Adds.refl.push rfl, fun _ ↦ ⟨s.trace, rfl, by simp⟩⟩,
      fun _ _ ↦ ⟨_, Adds.refl.push rfl, fun _ ↦ ⟨s.trace, rfl, by simp⟩⟩⟩
    rintro r hr
    exact ⟨outcome, houtcome, (Option.some.inj hr).symm⟩

theorem stepwise_live : Stepwise (liveStepExecutor world) (LiveShows world) where
  provision s := by
    rw [liveStepExecutor, wp_bind, wp_perform, Answer.wp_orRaise]
    exact ⟨fun _ _ ↦ ⟨_, Adds.refl.push rfl, by simp [Event.isProvision]⟩,
      fun _ ↦ ⟨_, Adds.refl.push rfl⟩, fun _ _ ↦ ⟨_, Adds.refl.push rfl⟩⟩
  stepRun action s := executeEnvAction_spec world (.run action) s
  submit s := ⟨⟨[], Adds.refl⟩, executeEnvAction_spec world .verify s⟩

end Stepwise

/-! ## Turns -/

/-- One executed action: its name, what it was rendered to, the executor's events and the transition
on the action chain. -/
structure Taken (A : Type) where
  action : A
  name : String
  events : List (Event A)
  step : ChainStep

/-- One turn of the loop. -/
inductive Turn (A : Type) where
  /-- The policy had no valid action. -/
  | idle (answer : ActAnswer A)
  | batch (actions : List A) (taken : List (Taken A))

section Turns

variable {A : Type}

namespace Taken

/-- The trace of an executed action. -/
def shown (taken : Taken A) : List (Event A) :=
  .name taken.action (.ok taken.name) ::
    (match taken.step.envAction with
      | .run action => .render taken.action (.ok (.run action)) :: taken.events
      | .verify => taken.events)

/-- An action is verified exactly when it is a submit, and its transition is what the executor
showed, scrubbed, or the stand-in of a step that was cut short. -/
structure Valid (u : Unicode) (Shows : EnvAction → List (Event A) → Option StepResult → Prop)
    (taken : Taken A) : Prop where
  submit : taken.name = SUBMIT_ACTION_NAME ↔ taken.step.envAction = .verify
  result : (∃ result, Shows taken.step.envAction taken.events (some result) ∧
      taken.step.timedOut = false ∧
      taken.step.stepResult = u.scrubStepResult taken.step.envAction.command? result) ∨
    Shows taken.step.envAction taken.events none ∧ taken.step.timedOut = true ∧
      taken.step.stepResult = u.scrubStepResult taken.step.envAction.command? .timedOut
  events : ∀ event ∈ taken.events, event.ofExecutor = true

theorem Valid.ofBatch {u : Unicode}
    {Shows : EnvAction → List (Event A) → Option StepResult → Prop} {taken : Taken A}
    (h : taken.Valid u Shows) {event : Event A} (hevent : event ∈ taken.shown) :
    event.ofBatch = true := by
  rw [shown] at hevent
  rcases List.mem_cons.mp hevent with rfl | hevent
  · rfl
  · split at hevent
    · rcases List.mem_cons.mp hevent with rfl | hevent
      · rfl
      · exact Event.ofBatch_of_ofExecutor (h.events event hevent)
    · exact Event.ofBatch_of_ofExecutor (h.events event hevent)

/-- Whether the action ended the episode. -/
def terminal (taken : Taken A) : Bool := taken.step.stepResult.terminal

end Taken

/-- The reports of a batch that began at step `previousStepIndex`, from call `callIndex` on. -/
def reported (previousStepIndex : ℕ) : ℕ → List (Taken A) → List (Event A)
  | _, [] => []
  | callIndex, taken :: rest =>
    .telemetry (.stepCompleted (previousStepIndex + callIndex + 1) callIndex taken.step.stepResult
      taken.terminal) (.ok ()) ::
    .observe taken.action taken.step.stepResult (.ok ()) ::
    reported previousStepIndex (callIndex + 1) rest

theorem mem_reported {previousStepIndex : ℕ} {action : A} {result : StepResult} :
    ∀ {callIndex : ℕ} {taken : List (Taken A)},
      .observe action result (.ok ()) ∈ reported previousStepIndex callIndex taken →
        ∃ t ∈ taken, t.step.stepResult = result
  | _, [], h => by cases h
  | callIndex, t :: taken, h => by
    rw [reported, List.mem_cons, List.mem_cons] at h
    rcases h with h | h | h
    · cases h
    · cases h
      exact ⟨t, List.mem_cons_self, rfl⟩
    · obtain ⟨t', ht', hresult⟩ := mem_reported h
      exact ⟨t', List.mem_cons_of_mem t ht', hresult⟩

theorem observe_mem_reported {previousStepIndex : ℕ} {t : Taken A} :
    ∀ {callIndex : ℕ} {taken : List (Taken A)}, t ∈ taken →
      .observe t.action t.step.stepResult (.ok ()) ∈ reported previousStepIndex callIndex taken
  | _, [], h => by cases h
  | callIndex, t' :: taken, h => by
    rw [reported, List.mem_cons, List.mem_cons]
    rcases List.mem_cons.mp h with rfl | h
    · exact Or.inr (Or.inl rfl)
    · exact Or.inr (Or.inr (observe_mem_reported h))

namespace Turn

def taken : Turn A → List (Taken A)
  | .idle _ => []
  | .batch _ taken => taken

/-- The steps a turn counts for. -/
def steps : Turn A → ℕ
  | .idle _ => 1
  | .batch _ taken => taken.length

/-- The trace of a turn that begins at step `stepIndex`. -/
def events (stepIndex : ℕ) : Turn A → List (Event A)
  | .idle answer => [.act answer, .telemetry (.noValidActionStep (stepIndex + 1)) (.ok ())]
  | .batch actions taken =>
    .act (.actions actions) :: (taken.flatMap Taken.shown ++ reported stepIndex 0 taken)

/-- A turn without an action is one in which the policy had none; a batch executes a first part of
its actions, at least one. -/
def Valid (u : Unicode) (Shows : EnvAction → List (Event A) → Option StepResult → Prop) :
    Turn A → Prop
  | .idle answer => answer = .noValidAction ∨ answer = .actions []
  | .batch actions taken => taken ≠ [] ∧ taken.map Taken.action <+: actions ∧
      ∀ t ∈ taken, t.Valid u Shows

end Turn

/-- The trace of turns, the first of which begins at step `stepIndex`. -/
def traceOf : ℕ → List (Turn A) → List (Event A)
  | _, [] => []
  | stepIndex, turn :: turns => turn.events stepIndex ++ traceOf (stepIndex + turn.steps) turns

def stepsOf (turns : List (Turn A)) : ℕ := (turns.map Turn.steps).sum

theorem stepsOf_append (turns : List (Turn A)) (turn : Turn A) :
    stepsOf (turns ++ [turn]) = stepsOf turns + turn.steps := by
  simp [stepsOf]

theorem traceOf_append (turns : List (Turn A)) (turn : Turn A) (stepIndex : ℕ) :
    traceOf stepIndex (turns ++ [turn]) =
      traceOf stepIndex turns ++ turn.events (stepIndex + stepsOf turns) := by
  induction turns generalizing stepIndex with
  | nil => simp [traceOf, stepsOf]
  | cons t turns ih =>
    have hsteps : stepIndex + t.steps + stepsOf turns = stepIndex + stepsOf (t :: turns) := by
      rw [stepsOf, stepsOf, List.map_cons, List.sum_cons, Nat.add_assoc]
    rw [List.cons_append, traceOf, ih, traceOf, List.append_assoc, hsteps]

/-- Every executed action is observed. -/
theorem observe_mem_traceOf {t : Taken A} :
    ∀ {turns : List (Turn A)} {stepIndex : ℕ}, t ∈ turns.flatMap Turn.taken →
      .observe t.action t.step.stepResult (.ok ()) ∈ traceOf stepIndex turns
  | [], _, h => by cases h
  | turn :: turns, stepIndex, h => by
    rw [List.flatMap_cons, List.mem_append] at h
    rw [traceOf, List.mem_append]
    rcases h with h | h
    · refine Or.inl ?_
      cases turn with
      | idle answer => cases h
      | batch actions taken =>
        exact List.mem_cons_of_mem _ (List.mem_append_right _ (observe_mem_reported h))
    · exact Or.inr (observe_mem_traceOf h)

theorem flatMap_taken_append (turns : List (Turn A)) (turn : Turn A) :
    (turns ++ [turn]).flatMap Turn.taken = turns.flatMap Turn.taken ++ turn.taken := by
  simp

end Turns

/-! ## One action, one batch -/

section Specs

variable {A σ : Type} {u : Unicode} {world : World A} {executor : StepExecutor A σ}
  {Shows : EnvAction → List (Event A) → Option StepResult → Prop}

/-- Execute a step under its deadlines and put it on the chain. -/
theorem recordStep_spec {envAction : EnvAction} {step : LoopM A σ StepResult}
    {s₁ s₂ : Rollout A σ}
    (h : wp step
      (fun result s' ↦ ∃ events, Adds events s₁ s' ∧ Shows envAction events (some result))
      (fun error s' ↦ ∃ events, Adds events s₁ s' ∧
        (error = .cancelled → Shows envAction events none)) s₂) :
    wp (bounded step)
      (fun result s' ↦ wp (recordStep u envAction result.1 result.2)
        (fun stepResult s'' ↦ ∃ events, ∃ step : ChainStep, s''.trace = s₁.trace ++ events ∧
          s''.actionChain = s₁.actionChain ++ [step] ∧ step.envAction = envAction ∧
          stepResult = step.stepResult ∧ (∀ event ∈ events, event.ofExecutor = true) ∧
          ((∃ result, Shows envAction events (some result) ∧ step.timedOut = false ∧
              step.stepResult = u.scrubStepResult envAction.command? result) ∨
            Shows envAction events none ∧ step.timedOut = true ∧
              step.stepResult = u.scrubStepResult envAction.command? .timedOut))
        (fun _ s'' ↦ Executing s₁ s'') s')
      (fun _ s' ↦ Executing s₁ s') s₂ := by
  have hbounded := bounded_spec (s := s₂)
    (P := fun result s' ↦ ∃ events, Adds events s₁ s' ∧ Shows envAction events result)
    (R := fun s' ↦ Executing s₁ s')
    (wp_mono h (fun _ _ hresult ↦ hresult) (by
      rintro error s' ⟨events, hadds, hcancelled⟩
      exact ⟨hadds.executing, fun herror ↦ ⟨events, hadds, hcancelled herror⟩⟩))
  refine wp_mono hbounded ?_ fun _ _ h ↦ h
  rintro ⟨result, timedOut⟩ s' hresult
  rcases hresult with ⟨rfl, events, ⟨htrace, hchain, hexec⟩, hshows⟩ |
    ⟨hcut, events, ⟨htrace, hchain, hexec⟩, hshows⟩
  · refine ⟨events, ⟨envAction, _, false⟩, htrace, ?_, rfl, rfl, hexec,
      Or.inl ⟨result, hshows, rfl, rfl⟩⟩
    rw [← hchain]
    rfl
  · cases hcut
    refine ⟨events, ⟨envAction, _, true⟩, htrace, ?_, rfl, rfl, hexec, Or.inr ⟨hshows, rfl, rfl⟩⟩
    rw [← hchain]
    rfl

variable (hstep : Stepwise executor Shows)

include hstep

theorem executeAction_spec (action : A) (s : Rollout A σ) :
    wp (executeAction u world executor action)
      (fun result s' ↦ ∃ t : Taken A, t.action = action ∧ t.Valid u Shows ∧
        s'.trace = s.trace ++ t.shown ∧ s'.actionChain = s.actionChain ++ [t.step] ∧
        result.1 = t.step.stepResult ∧ (result.2 = true ↔ t.step.envAction = .verify))
      (fun _ s' ↦ Executing s s') s := by
  rw [executeAction, wp_bind, wp_askPolicy]
  refine ⟨fun name _ ↦ ?_, fun _ _ ↦ Only.refl.push rfl⟩
  have hasked : Executing s (s.push (.name action (.ok name))) := Only.refl.push rfl
  rw [wp_ite]
  refine ⟨fun hsubmit ↦ ?_, fun hsubmit ↦ ?_⟩
  · rw [wp_bind, prepareSubmit, wp_tryCatch]
    refine wp_mono (hstep.submit _) ?_ ?_
    · rintro served s₂ ⟨-, hserved⟩
      have hrun : wp (served.elim executor.stepVerify pure)
          (fun result s' ↦ ∃ events, Adds events (s.push (.name action (.ok name))) s' ∧
            Shows .verify events (some result))
          (fun error s' ↦ ∃ events, Adds events (s.push (.name action (.ok name))) s' ∧
            (error = .cancelled → Shows .verify events none)) s₂ := by
        cases served with
        | none => exact hserved
        | some result => exact hserved
      rw [wp_bind]
      refine wp_mono (recordStep_spec (u := u) hrun) ?_ fun _ _ h ↦ hasked.trans h
      rintro ⟨result, timedOut⟩ s₃ hrecord
      rw [wp_bind]
      refine wp_mono hrecord ?_ fun _ _ h ↦ hasked.trans h
      rintro stepResult s₄ ⟨events, step, htrace, hchain, henv, hresult, hexec, hvalid⟩
      refine ⟨⟨action, name, events, step⟩, rfl, ⟨?_, ?_, hexec⟩, ?_, hchain, hresult, ?_⟩
      · exact iff_of_true hsubmit henv
      · rw [henv]
        exact hvalid
      · rw [htrace, Taken.shown, henv, Rollout.push, List.append_assoc]
        rfl
      · exact iff_of_true rfl henv
    · rintro error s₂ ⟨events, hadds⟩
      cases error <;> exact hasked.trans hadds.executing
  · rw [wp_bind, wp_askPolicy]
    refine ⟨fun rendered _ ↦ ?_, fun _ _ ↦ hasked.push rfl⟩
    cases rendered with
    | other typeName => exact hasked.push rfl
    | run envAction =>
      have hrendered : Executing s ((s.push (.name action (.ok name))).push
          (.render action (.ok (.run envAction)))) := hasked.push rfl
      rw [wp_bind]
      refine wp_mono (recordStep_spec (u := u) (hstep.stepRun envAction _)) ?_
        fun _ _ h ↦ hrendered.trans h
      rintro ⟨result, timedOut⟩ s₃ hrecord
      rw [wp_bind]
      refine wp_mono hrecord ?_ fun _ _ h ↦ hrendered.trans h
      rintro stepResult s₄ ⟨events, step, htrace, hchain, henv, hresult, hexec, hvalid⟩
      refine ⟨⟨action, name, events, step⟩, rfl, ⟨?_, ?_, hexec⟩, ?_, hchain, hresult, ?_⟩
      · rw [henv]
        exact iff_of_false hsubmit (by simp)
      · rw [henv]
        exact hvalid
      · rw [htrace, Taken.shown, henv, Rollout.push, Rollout.push]
        simp
      · rw [henv]
        exact iff_of_false (by simp) (by simp)

/-- What a batch has done: its transitions, and whether the last of them ended the episode. -/
structure Executed (u : Unicode) (Shows : EnvAction → List (Event A) → Option StepResult → Prop)
    (actions : List A) (room : ℕ) (batch : Batch A) (taken : List (Taken A)) : Prop where
  transitions : batch.transitions = taken.map fun t ↦ (t.action, t.step.stepResult)
  performed : taken.map Taken.action <+: actions
  within : taken.length ≤ room
  nonempty : actions ≠ [] → 0 < room → taken ≠ []
  valid : ∀ t ∈ taken, t.Valid u Shows
  running : ∀ t ∈ taken.dropLast, t.terminal = false
  terminal : ∀ t ∈ taken.getLast?, t.terminal = batch.terminal
  submit : batch.terminal = true → ∃ t ∈ taken.getLast?,
    (batch.submitRequested = true ↔ t.step.envAction = .verify)

omit hstep in
theorem Executed.single {action : A} {actions : List A} {room : ℕ} {t : Taken A}
    {submitRequested : Bool} (haction : t.action = action) (hvalid : t.Valid u Shows)
    (hterminal : t.terminal = true) (hsubmit : submitRequested = true ↔ t.step.envAction = .verify) :
    Executed u Shows (action :: actions) (room + 1)
      ⟨[(action, t.step.stepResult)], true, submitRequested⟩ [t] where
  transitions := by rw [List.map_singleton, haction]
  performed := by rw [List.map_singleton, haction]; exact ⟨actions, rfl⟩
  within := by simp
  nonempty := by simp
  valid := by simpa using hvalid
  running := by simp
  terminal := by simpa using hterminal
  submit _ := ⟨t, by simp, hsubmit⟩

omit hstep in
theorem Executed.cons {action : A} {actions : List A} {room : ℕ} {t : Taken A} {batch : Batch A}
    {taken : List (Taken A)} (haction : t.action = action) (hvalid : t.Valid u Shows)
    (hrunning : t.terminal = false) (h : Executed u Shows actions room batch taken) :
    Executed u Shows (action :: actions) (room + 1)
      { batch with transitions := (action, t.step.stepResult) :: batch.transitions }
      (t :: taken) where
  transitions := by rw [h.transitions, List.map_cons, haction]
  performed := by
    rw [List.map_cons, haction]
    exact (List.prefix_cons_inj action).mpr h.performed
  within := Nat.succ_le_succ h.within
  nonempty := by simp
  valid := List.forall_mem_cons.mpr ⟨hvalid, h.valid⟩
  running := by
    cases taken with
    | nil => simp
    | cons t' taken =>
      rw [List.dropLast_cons_cons]
      exact List.forall_mem_cons.mpr ⟨hrunning, h.running⟩
  terminal := by
    cases taken with
    | nil =>
      intro t' ht'
      obtain rfl : t = t' := by simpa using ht'
      -- a batch that ended the episode has executed something
      cases hbatch : batch.terminal with
      | false => exact hrunning
      | true =>
        obtain ⟨t', ht', -⟩ := h.submit hbatch
        cases ht'
    | cons t' taken => simpa [List.getLast?_cons_cons] using h.terminal
  submit := by
    intro hbatch
    obtain ⟨t', ht', hsubmit⟩ := h.submit hbatch
    cases taken with
    | nil => cases ht'
    | cons t'' taken => exact ⟨t', by rw [List.getLast?_cons_cons]; exact ht', hsubmit⟩

omit hstep in
theorem Executed.all_running {actions : List A} {room : ℕ} {batch : Batch A}
    {taken : List (Taken A)} (h : Executed u Shows actions room batch taken)
    (hbatch : batch.terminal = false) (t : Taken A) (ht : t ∈ taken) : t.terminal = false := by
  cases hlast : taken.getLast? with
  | none =>
    rw [List.getLast?_eq_none_iff.mp hlast] at ht
    cases ht
  | some last =>
    rw [← List.dropLast_append_getLast? last hlast] at ht
    rcases List.mem_append.mp ht with ht | ht
    · exact h.running t ht
    · rw [List.mem_singleton.mp ht]
      exact (h.terminal last hlast).trans hbatch

theorem executeBatch_spec : ∀ (actions : List A) (room : ℕ) (s : Rollout A σ),
    wp (executeBatch u world executor actions room)
      (fun batch s' ↦ ∃ taken, Executed u Shows actions room batch taken ∧
        s'.trace = s.trace ++ taken.flatMap Taken.shown ∧
        s'.actionChain = s.actionChain ++ taken.map Taken.step)
      (fun _ s' ↦ Executing s s') s
  | [], room, s => by
    rw [executeBatch, wp_pure]
    exact ⟨[], ⟨rfl, List.nil_prefix, Nat.zero_le _, by simp, by simp, by simp, by simp, by simp⟩,
      by simp, by simp⟩
  | action :: actions, 0, s => by
    rw [executeBatch, wp_pure]
    exact ⟨[], ⟨rfl, List.nil_prefix, Nat.zero_le _, by simp, by simp, by simp, by simp, by simp⟩,
      by simp, by simp⟩
  | action :: actions, room + 1, s => by
    rw [executeBatch, wp_bind]
    refine wp_mono (executeAction_spec hstep action s) ?_ fun _ _ h ↦ h
    rintro ⟨transition, submitRequested⟩ s₁ ⟨t, haction, hvalid, htrace, hchain, htransition, hsubmit⟩
    have hexecuting : Executing s s₁ := ⟨t.shown, htrace, fun event hevent ↦ hvalid.ofBatch hevent⟩
    obtain rfl : transition = t.step.stepResult := htransition
    rw [wp_ite]
    refine ⟨fun hterminal ↦ ?_, fun hrunning ↦ ?_⟩
    · exact ⟨[t], .single haction hvalid hterminal hsubmit, by simpa using htrace,
        by simpa using hchain⟩
    · rw [wp_bind]
      refine wp_mono (executeBatch_spec actions room s₁) ?_ fun _ _ h ↦ hexecuting.trans h
      rintro batch s₂ ⟨taken, hexecuted, htrace', hchain'⟩
      refine ⟨t :: taken, hexecuted.cons haction hvalid (Bool.eq_false_iff.mpr hrunning), ?_, ?_⟩
      · rw [htrace', htrace, List.flatMap_cons, List.append_assoc]
      · rw [hchain', hchain, List.map_cons, List.append_assoc, List.singleton_append]

omit hstep in
/-- A report that breaks off has not shown the last transition. -/
theorem report_spec (previousStepIndex : ℕ) : ∀ (taken : List (Taken A)) (callIndex : ℕ)
    (s : Rollout A σ), EndUnseen s → (∀ t ∈ taken.dropLast, t.terminal = false) →
    wp (report world previousStepIndex callIndex
        (taken.map fun t ↦ (t.action, t.step.stepResult)))
      (fun _ s' ↦ s'.trace = s.trace ++ reported previousStepIndex callIndex taken ∧
        s'.actionChain = s.actionChain)
      (fun _ s' ↦ EndUnseen s') s
  | [], callIndex, s, _, _ => by
    rw [List.map_nil, report, wp_pure, reported, List.append_nil]
    exact ⟨rfl, rfl⟩
  | t :: taken, callIndex, s, hunseen, hrunning => by
    rw [List.map_cons, report, wp_bind, wp_tell]
    refine ⟨fun _ ↦ ?_, fun text _ ↦ hunseen.silent (Only.refl.push rfl)⟩
    rw [wp_bind, wp_askPolicy]
    have htold : EndUnseen (s.push (.telemetry (.stepCompleted (previousStepIndex + callIndex + 1)
        callIndex t.step.stepResult t.terminal) (.ok ()))) :=
      hunseen.silent (Only.refl.push rfl)
    refine ⟨?_, fun error _ ↦ htold.push _ (by rintro _ _ ⟨⟩)⟩
    rintro ⟨⟩ -
    cases taken with
    | nil =>
      rw [List.map_nil, report, wp_pure]
      exact ⟨by simp [Rollout.push, reported, Taken.terminal], rfl⟩
    | cons t' taken =>
      have hnext := htold.push (.observe t.action t.step.stepResult (.ok ())) (by
        rintro _ _ ⟨⟩
        exact hrunning t (by simp))
      refine wp_mono (report_spec previousStepIndex (t' :: taken) (callIndex + 1) _ hnext
        fun t'' ht'' ↦ hrunning t'' (by simp [ht''])) ?_ fun _ _ h ↦ h
      rintro _ s' ⟨htrace, hchain⟩
      refine ⟨?_, hchain⟩
      have hreported : reported previousStepIndex callIndex (t :: t' :: taken) =
          .telemetry (.stepCompleted (previousStepIndex + callIndex + 1) callIndex
            t.step.stepResult t.terminal) (.ok ()) ::
          .observe t.action t.step.stepResult (.ok ()) ::
          reported previousStepIndex (callIndex + 1) (t' :: taken) := rfl
      rw [htrace, hreported]
      simp [Rollout.push, Taken.terminal]

omit hstep in
theorem act_spec (stallTimeoutSec : ℚ) (s : Rollout A σ) :
    wp (act world stallTimeoutSec)
      (fun result s' ↦ ∃ answer, s' = s.push (.act answer) ∧ match result with
        | .ok actions => answer = .actions actions ∨ answer = .noValidAction ∧ actions = []
        | .error text => answer = .repeatedLengthCutoff text)
      (fun _ s' ↦ ∃ answer, s' = s.push (.act answer)) s := by
  rw [act, wp_bind, wp_perform]
  cases world.act s.trace with
  | actions actions => exact ⟨_, rfl, Or.inl rfl⟩
  | noValidAction => exact ⟨_, rfl, Or.inr ⟨rfl, rfl⟩⟩
  | repeatedLengthCutoff text => exact ⟨_, rfl, rfl⟩
  | deadline agent => cases agent <;> exact ⟨_, rfl⟩
  | raised error => exact ⟨_, rfl⟩

end Specs

/-! ## The whole loop -/

section Ledger

variable {A σ : Type}

/-- The account of the loop after some turns: the trace from `opening` on, the action chain from
`before` on, and the number of steps. -/
structure Ledger (u : Unicode) (Shows : EnvAction → List (Event A) → Option StepResult → Prop)
    (maxSteps : ℕ) (opening : List (Event A)) (before : List ChainStep) (turns : List (Turn A))
    (s : Rollout A σ) : Prop where
  trace : s.trace = opening ++ traceOf 0 turns
  chain : s.actionChain = before ++ (turns.flatMap Turn.taken).map Taken.step
  valid : ∀ turn ∈ turns, turn.Valid u Shows
  within : stepsOf turns ≤ maxSteps

/-- The last transition the policy has seen. -/
def lastSeen (turns : List (Turn A)) : Option StepResult :=
  (turns.flatMap Turn.taken).getLast?.map fun t ↦ t.step.stepResult

/-- How the loop ends after some turns: by a submit exactly when the last action is a submit that
ended the episode, and by the budget exactly when it is another one. -/
structure EndsAfter (turns : List (Turn A)) (outcome : LoopOutcome) : Prop where
  steps : outcome.stepsTaken = some (stepsOf turns)
  final : outcome.final = lastSeen turns
  running : ∀ t ∈ (turns.flatMap Turn.taken).dropLast, t.terminal = false
  submitted : outcome.ending = .submitted ↔
    ∃ t ∈ (turns.flatMap Turn.taken).getLast?, t.terminal = true ∧ t.step.envAction = .verify
  budget : outcome.ending = .budget ↔
    ∃ t ∈ (turns.flatMap Turn.taken).getLast?, t.terminal = true ∧ t.step.envAction ≠ .verify
  ending : outcome.ending = .submitted ∨ outcome.ending = .budget ∨ outcome.ending = .stepCap ∨
    outcome.ending = .gaveUp

variable {u : Unicode} {world : World A} {executor : StepExecutor A σ}
  {Shows : EnvAction → List (Event A) → Option StepResult → Prop} {maxSteps : ℕ}
  {opening : List (Event A)} {before : List ChainStep} {done : List (Turn A)} {s : Rollout A σ}

/-- An episode that is still running has seen no transition that ends it. -/
theorem EndsAfter.of_running {outcome : LoopOutcome}
    (hrunning : ∀ t ∈ done.flatMap Turn.taken, t.terminal = false)
    (hsteps : outcome.stepsTaken = some (stepsOf done)) (hfinal : outcome.final = lastSeen done)
    (hending : outcome.ending = .stepCap ∨ outcome.ending = .gaveUp) : EndsAfter done outcome where
  steps := hsteps
  final := hfinal
  running t ht := hrunning t (List.dropLast_subset _ ht)
  submitted := by
    constructor
    · intro h
      rcases hending with h' | h' <;> cases h.symm.trans h'
    · rintro ⟨t, ht, hterminal, -⟩
      cases hterminal.symm.trans (hrunning t (List.mem_of_getLast? ht))
  budget := by
    constructor
    · intro h
      rcases hending with h' | h' <;> cases h.symm.trans h'
    · rintro ⟨t, ht, hterminal, -⟩
      cases hterminal.symm.trans (hrunning t (List.mem_of_getLast? ht))
  ending := hending.elim (fun h ↦ Or.inr (Or.inr (Or.inl h))) fun h ↦ Or.inr (Or.inr (Or.inr h))

/-- One more turn. -/
theorem Ledger.snoc (h : Ledger u Shows maxSteps opening before done s) (s' : Rollout A σ)
    (turn : Turn A)
    (htrace : s'.trace = s.trace ++ turn.events (stepsOf done))
    (hchain : s'.actionChain = s.actionChain ++ turn.taken.map Taken.step)
    (hvalid : turn.Valid u Shows) (hwithin : stepsOf done + turn.steps ≤ maxSteps) :
    Ledger u Shows maxSteps opening before (done ++ [turn]) s' where
  trace := by rw [htrace, h.trace, traceOf_append, Nat.zero_add, List.append_assoc]
  chain := by
    rw [hchain, h.chain, flatMap_taken_append, List.map_append, List.append_assoc]
  valid turn' hturn' := by
    rcases List.mem_append.mp hturn' with hturn' | hturn'
    · exact h.valid turn' hturn'
    · rwa [List.mem_singleton.mp hturn']
  within := by rwa [stepsOf_append]

/-- The account of a whole run: after its turns the policy may have given up. -/
structure Accounted (u : Unicode) (Shows : EnvAction → List (Event A) → Option StepResult → Prop)
    (maxSteps : ℕ) (opening : List (Event A)) (before : List ChainStep) (turns : List (Turn A))
    (outcome : LoopOutcome) (s : Rollout A σ) : Prop extends EndsAfter turns outcome where
  trace : ∃ tail, s.trace = opening ++ traceOf 0 turns ++ tail ∧
    (tail = [] ∨ ∃ text, tail = [.act (.repeatedLengthCutoff text)])
  chain : s.actionChain = before ++ (turns.flatMap Turn.taken).map Taken.step
  valid : ∀ turn ∈ turns, turn.Valid u Shows
  within : stepsOf turns ≤ maxSteps

theorem Ledger.accounted {outcome : LoopOutcome}
    (h : Ledger u Shows maxSteps opening before done s) (hconcluded : EndsAfter done outcome) :
    Accounted u Shows maxSteps opening before done outcome s where
  toEndsAfter := hconcluded
  trace := ⟨[], by rw [h.trace, List.append_nil], Or.inl rfl⟩
  chain := h.chain
  valid := h.valid
  within := h.within

theorem lastSeen_batch (done : List (Turn A)) (actions : List A) (taken : List (Taken A)) :
    ((taken.map fun t ↦ (t.action, t.step.stepResult)).getLast?.map Prod.snd).or (lastSeen done) =
      lastSeen (done ++ [.batch actions taken]) := by
  rw [lastSeen, lastSeen, flatMap_taken_append, List.getLast?_append, List.getLast?_map, Turn.taken]
  cases taken.getLast? <;> rfl

/-- A batch whose last transition is terminal concludes the episode. -/
theorem EndsAfter.of_terminal {actions : List A} {taken : List (Taken A)} {batch : Batch A}
    {room : ℕ} {outcome : LoopOutcome} (hexecuted : Executed u Shows actions room batch taken)
    (hterminal : batch.terminal = true)
    (hrunning : ∀ t ∈ done.flatMap Turn.taken, t.terminal = false)
    (hsteps : outcome.stepsTaken = some (stepsOf (done ++ [.batch actions taken])))
    (hfinal : outcome.final = lastSeen (done ++ [.batch actions taken]))
    (hending : outcome.ending = if batch.submitRequested then .submitted else .budget) :
    EndsAfter (done ++ [.batch actions taken]) outcome := by
  obtain ⟨t, ht, hsubmit⟩ := hexecuted.submit hterminal
  have htaken : (done ++ [Turn.batch actions taken]).flatMap Turn.taken =
      done.flatMap Turn.taken ++ taken := flatMap_taken_append _ _
  have hlast : ((done ++ [Turn.batch actions taken]).flatMap Turn.taken).getLast? = some t := by
    rw [htaken, List.getLast?_append, ht]
    rfl
  have hends : t.terminal = true := (hexecuted.terminal t ht).trans hterminal
  refine ⟨hsteps, hfinal, fun t' ht' ↦ ?_, ?_, ?_, ?_⟩
  · have hne : taken ≠ [] := by
      rintro rfl
      cases ht
    rw [htaken, List.dropLast_append_of_ne_nil hne] at ht'
    exact (List.mem_append.mp ht').elim (hrunning t') (hexecuted.running t')
  · rw [hlast, hending]
    cases hrequested : batch.submitRequested <;> rw [hrequested] at hsubmit <;> simp_all
  · rw [hlast, hending]
    cases hrequested : batch.submitRequested <;> rw [hrequested] at hsubmit <;> simp_all
  · rw [hending]
    cases batch.submitRequested <;> simp

theorem turns_spec (hstep : Stepwise executor Shows) (stallTimeoutSec : ℚ) :
    ∀ (fuel : ℕ) (done : List (Turn A)) (s : Rollout A σ),
      Ledger u Shows maxSteps opening before done s →
      (∀ t ∈ done.flatMap Turn.taken, t.terminal = false) → EndUnseen s →
      wp (turns u world executor maxSteps stallTimeoutSec fuel (stepsOf done) (lastSeen done))
        (fun outcome s' ↦ ∃ turns, Accounted u Shows maxSteps opening before turns outcome s')
        (fun _ s' ↦ EndUnseen s') s
  | 0, done, s, hledger, hrunning, hunseen =>
    ⟨done, hledger.accounted (.of_running hrunning rfl rfl (Or.inl rfl))⟩
  | fuel + 1, done, s, hledger, hrunning, hunseen => by
    rw [turns, wp_ite]
    refine ⟨fun _ ↦ ⟨done, hledger.accounted (.of_running hrunning rfl rfl (Or.inl rfl))⟩,
      fun hroom ↦ ?_⟩
    rw [wp_bind]
    refine wp_mono (act_spec stallTimeoutSec s) ?_ ?_
    swap
    · rintro _ _ ⟨answer, rfl⟩
      exact hunseen.silent (Only.refl.push rfl)
    rintro (text | actions) _ ⟨answer, rfl, hanswer⟩
    · obtain rfl : answer = .repeatedLengthCutoff text := hanswer
      refine ⟨done, .of_running hrunning rfl rfl (Or.inr rfl), ⟨_, ?_, Or.inr ⟨text, rfl⟩⟩,
        hledger.chain, hledger.valid, hledger.within⟩
      rw [Rollout.push, hledger.trace]
    have hasked : Silent s (s.push (.act answer)) := Only.refl.push rfl
    rw [wp_bind]
    refine wp_mono (executeBatch_spec hstep actions _ _) ?_
      fun _ _ h ↦ hunseen.silent (hasked.trans (Executing.silent h))
    rintro batch s₂ ⟨taken, hexecuted, htrace, hchain⟩
    have hunseen₂ : EndUnseen s₂ := by
      refine hunseen.silent (hasked.trans (Executing.silent ⟨taken.flatMap Taken.shown, htrace, ?_⟩))
      intro event hevent
      obtain ⟨t, ht, hevent⟩ := List.mem_flatMap.mp hevent
      exact (hexecuted.valid t ht).ofBatch hevent
    dsimp only
    rw [wp_ite]
    refine ⟨fun hempty ↦ ?_, fun hsome ↦ ?_⟩
    · -- a turn without an action: one step, one row
      obtain rfl : actions = [] := List.isEmpty_iff.mp hempty
      obtain rfl : taken = [] := by simpa using hexecuted.performed
      have hidle : answer = .noValidAction ∨ answer = .actions [] :=
        hanswer.elim Or.inr fun h ↦ Or.inl h.1
      have hbatch : batch.terminal = false := by
        by_contra hterminal
        obtain ⟨t, ht, -⟩ := hexecuted.submit (by simpa using hterminal)
        cases ht
      rw [wp_bind, wp_tell]
      refine ⟨fun _ ↦ ?_, fun _ _ ↦ hunseen₂.silent (Only.refl.push rfl)⟩
      have hnext := hledger.snoc
        (s₂.push (.telemetry (.noValidActionStep (stepsOf done + 1)) (.ok ()))) (.idle answer)
        (by simp [Rollout.push, htrace, Turn.events]) (by simp [Rollout.push, hchain, Turn.taken])
        hidle (by rw [Turn.steps]; omega)
      rw [wp_bind, hexecuted.transitions, List.map_nil, report, wp_pure, wp_ite]
      refine ⟨fun hterminal ↦ absurd hterminal (by simp [hbatch]), fun _ ↦ ?_⟩
      have hsteps : stepsOf done + max 1 ([] : List (A × StepResult)).length =
          stepsOf (done ++ [.idle answer]) := (stepsOf_append done (.idle answer)).symm
      have hlast : ((([] : List (A × StepResult)).getLast?.map Prod.snd).or (lastSeen done)) =
          lastSeen (done ++ [.idle answer]) := by
        rw [lastSeen, lastSeen, flatMap_taken_append]
        simp [Turn.taken]
      rw [hsteps, hlast]
      refine turns_spec hstep stallTimeoutSec fuel _ _ hnext ?_
        (hunseen₂.silent (Only.refl.push rfl))
      simpa [Turn.taken] using hrunning
    · -- a turn with actions: the reports come after the whole batch
      have hne : actions ≠ [] := fun h ↦ hsome (by rw [h]; rfl)
      obtain rfl : answer = .actions actions :=
        hanswer.elim id fun h ↦ absurd h.2 hne
      have htaken : taken ≠ [] := hexecuted.nonempty hne (by omega)
      have hsteps : stepsOf done + max 1 batch.transitions.length =
          stepsOf (done ++ [.batch actions taken]) := by
        have := List.length_pos_of_ne_nil htaken
        rw [stepsOf_append, hexecuted.transitions, List.length_map, Turn.steps]
        omega
      have hlast : ((batch.transitions.getLast?.map Prod.snd).or (lastSeen done)) =
          lastSeen (done ++ [.batch actions taken]) := by
        rw [hexecuted.transitions, lastSeen_batch]
      rw [wp_bind, hexecuted.transitions]
      refine wp_mono (report_spec (stepsOf done) taken 0 s₂ hunseen₂ hexecuted.running) ?_
        fun _ _ h ↦ h
      rintro ⟨⟩ s₃ ⟨htrace₃, hchain₃⟩
      have hnext : Ledger u Shows maxSteps opening before (done ++ [.batch actions taken]) s₃ := by
        refine hledger.snoc _ _ ?_ ?_ ⟨htaken, hexecuted.performed, hexecuted.valid⟩ ?_
        · rw [htrace₃, htrace, Rollout.push, Turn.events]
          simp
        · rw [hchain₃, hchain]
          rfl
        · have := hexecuted.within
          rw [Turn.steps]
          omega
      rw [← hexecuted.transitions, hlast, hsteps, wp_ite]
      refine ⟨fun hterminal ↦ ?_, fun hcontinues ↦ ?_⟩
      · obtain ⟨t, ht, -⟩ := hexecuted.submit hterminal
        have hfinal : lastSeen (done ++ [.batch actions taken]) = some t.step.stepResult := by
          rw [lastSeen, flatMap_taken_append, List.getLast?_append, Turn.taken, ht]
          rfl
        rw [hfinal, finish, wp_pure]
        exact ⟨_, hnext.accounted
          (.of_terminal hexecuted hterminal hrunning rfl hfinal.symm rfl)⟩
      · have hrunning' : ∀ t ∈ (done ++ [Turn.batch actions taken]).flatMap Turn.taken,
            t.terminal = false := by
          intro t ht
          rw [flatMap_taken_append] at ht
          rcases List.mem_append.mp ht with ht | ht
          · exact hrunning t ht
          · exact hexecuted.all_running (Bool.eq_false_iff.mpr hcontinues) t ht
        refine turns_spec hstep stallTimeoutSec fuel _ _ hnext hrunning' ?_
        intro action result hmem
        rw [htrace₃, List.mem_append] at hmem
        rcases hmem with hmem | hmem
        · exact hunseen₂ action result hmem
        · obtain ⟨t, ht, rfl⟩ := mem_reported hmem
          exact hexecuted.all_running (Bool.eq_false_iff.mpr hcontinues) t ht

/-- An episode that did not end in the loop. -/
structure LoopOutcome.Failed (outcome : LoopOutcome) : Prop where
  steps : outcome.stepsTaken = none
  final : outcome.final = none
  ending : outcome.ending = .setupTimeout ∨ outcome.ending = .taskTimeout ∨
    outcome.ending = .stallTimeout ∨ outcome.ending = .unscorableInfra ∨ outcome.ending = .crash
  origin : outcome.ending = .crash → outcome.origin.isSome = true

theorem LoopOutcome.Failed.crashed {origin : FailureOrigin} {text : String} :
    (LoopOutcome.crashed origin text).Failed where
  steps := rfl
  final := rfl
  ending := by simp [LoopOutcome.crashed]
  origin _ := rfl

theorem classify_spec (error : LoopError) (s : Rollout A σ) :
    wp (classify error) (fun outcome s' ↦ outcome.Failed ∧ s' = s) (fun _ s' ↦ s' = s) s := by
  cases error <;> first
    | exact ⟨.crashed, rfl⟩
    | exact ⟨⟨rfl, rfl, by simp, by simp⟩, rfl⟩
    | exact rfl

/-- What a run of the loop from `s` that returns leaves: an account of its turns, or a failure before
the policy has seen the end of the episode. -/
def EpisodeDone (u : Unicode) (Shows : EnvAction → List (Event A) → Option StepResult → Prop)
    (maxSteps : ℕ) (s : Rollout A σ) (outcome : LoopOutcome) (s' : Rollout A σ) : Prop :=
  (∃ output events turns, (∀ event ∈ events, event.isProvision = true) ∧
    Accounted u Shows maxSteps
      (s.trace ++ .reset (.ok output) :: (events ++ [.policyReset output (.ok ())]))
      s.actionChain turns outcome s') ∨
  outcome.Failed ∧ EndUnseen s'

/-- **A run of the loop that returns a step count is a sequence of turns.**  In every other run the
policy has not seen the end of an episode. -/
theorem runTaskLoop_spec (hstep : Stepwise executor Shows) (stallTimeoutSec : ℚ)
    (hunseen : EndUnseen s) :
    wp (runTaskLoop u world executor maxSteps stallTimeoutSec)
      (fun outcome s' ↦ EpisodeDone u Shows maxSteps s outcome s')
      (fun _ s' ↦ EndUnseen s') s := by
  have hclassify : ∀ error (s' : Rollout A σ), EndUnseen s' → wp (classify error)
      (fun outcome s' ↦ EpisodeDone u Shows maxSteps s outcome s')
      (fun _ s' ↦ EndUnseen s') s' := by
    intro error s' hunseen'
    refine wp_mono (classify_spec error s') ?_ ?_
    · rintro outcome _ ⟨hfailed, rfl⟩
      exact Or.inr ⟨hfailed, hunseen'⟩
    · rintro _ _ rfl
      exact hunseen'
  have hreset : ∀ answer, EndUnseen (s.push (.reset answer)) :=
    fun answer ↦ hunseen.silent (Only.refl.push rfl)
  rw [runTaskLoop, wp_tryCatch, episode, wp_bind, setup, wp_tryCatch, wp_bind, wp_perform, wp_bind,
    Answer.wp_orRaise]
  refine ⟨fun output houtput ↦ ?_, fun _ ↦ wp_throw.mpr (hclassify _ _ (hreset _)),
    fun _ _ ↦ wp_throw.mpr (hclassify _ _ (hreset _))⟩
  rw [wp_bind]
  refine wp_mono (hstep.provision _) ?_ ?_
  swap
  · rintro error s' ⟨events, hadds⟩
    exact wp_throw.mpr (hclassify _ _ ((hreset _).silent hadds.silent))
  rintro ⟨⟩ s₁ ⟨events, hadds, hprovision⟩
  have hunseen₁ := (hreset _).silent hadds.silent
  rw [wp_pure, wp_bind, wp_askPolicy]
  refine ⟨?_, fun error _ ↦ hclassify _ _ (hunseen₁.silent (Only.refl.push rfl))⟩
  rintro ⟨⟩ -
  have hledger : Ledger u Shows maxSteps
      (s.trace ++ .reset (.ok output) :: (events ++ [.policyReset output (.ok ())]))
      s.actionChain [] (s₁.push (.policyReset output (.ok ()))) := by
    refine ⟨?_, by simp [Rollout.push, hadds.2.1], by simp, Nat.zero_le _⟩
    rw [Rollout.push, hadds.1, houtput]
    simp [Rollout.push, traceOf]
  refine wp_mono (turns_spec hstep stallTimeoutSec maxSteps [] _ hledger (by simp)
    (hunseen₁.silent (Only.refl.push rfl))) ?_ fun error s' h ↦ hclassify error s' h
  rintro outcome s' ⟨turns, haccounted⟩
  exact Or.inl ⟨output, events, turns, hprovision, haccounted⟩

end Ledger

end HarnessTraining
