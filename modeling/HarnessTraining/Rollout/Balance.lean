import HarnessTraining.Rollout.Accounting
import Mathlib.Data.List.Basic

/-!
# Balanced records

The four records of an episode, read back from its trace: the step labels and transitions of the
telemetry rows, what the policy was shown, what it requested, and what the environment was asked.

* `Balanced` — the records agree with the action chain and with the count of steps.
* `EpisodeDone.balanced` — a run of the loop leaves balanced records if its executor ends the episode
  with every verdict.
* `LiveShows.environmentCalls` — what a live run asks the environment is its action chain.
-/

set_option autoImplicit false

namespace HarnessTraining

open StateExcept

/-! ## Readings of a trace -/

namespace Event

variable {A : Type}

/-- The step label of a telemetry row. -/
def stepLabel? : Event A → Option ℕ
  | .telemetry (.noValidActionStep stepIndex) _ => some stepIndex
  | .telemetry (.stepCompleted stepIndex _ _ _) _ => some stepIndex
  | _ => none

/-- The transition of a `step_completed` row. -/
def completed? : Event A → Option StepResult
  | .telemetry (.stepCompleted _ _ stepResult _) _ => some stepResult
  | _ => none

/-- What the policy is shown. -/
def observed? : Event A → Option (A × StepResult)
  | .observe action transition _ => some (action, transition)
  | _ => none

/-- The action whose turn it is. -/
def named? : Event A → Option A
  | .name action _ => some action
  | _ => none

/-- The environment action that an action of the policy comes to. -/
def requested? : Event A → Option EnvAction
  | .name _ (.ok text) => if text = SUBMIT_ACTION_NAME then some .verify else none
  | .render _ (.ok (.run action)) => some (.run action)
  | _ => none

/-- What the environment is asked. -/
def environmentCall? : Event A → Option EnvAction
  | .execute action _ => some (.run action)
  | .verify _ => some .verify
  | _ => none

/-- What an executor asks is none of the loop's records. -/
theorem unread_of_ofExecutor {event : Event A} (h : event.ofExecutor = true) :
    event.stepLabel? = none ∧ event.completed? = none ∧ event.observed? = none ∧
      event.named? = none ∧ event.requested? = none := by
  cases event <;> first
    | exact ⟨rfl, rfl, rfl, rfl, rfl⟩
    | cases h

end Event

section Readings

variable {A β : Type} {f : Event A → Option β} {u : Unicode}
  {Shows : EnvAction → List (Event A) → Option StepResult → Prop}

/-- A reading that passes over the executor reads an executed action off its name and its
rendering. -/
theorem Taken.Valid.filterMap_shown {taken : Taken A} (h : taken.Valid u Shows)
    (hf : ∀ event, event.ofExecutor = true → f event = none) :
    taken.shown.filterMap f = (f (.name taken.action (.ok taken.name))).toList ++
      match taken.step.envAction with
      | .run action => (f (.render taken.action (.ok (.run action)))).toList
      | .verify => [] := by
  have hevents : taken.events.filterMap f = [] :=
    List.filterMap_eq_nil_iff.mpr fun event hevent ↦ hf event (h.events event hevent)
  rw [Taken.shown, List.filterMap_cons]
  cases f (.name taken.action (.ok taken.name)) <;> cases taken.step.envAction with
  | verify => simp [hevents]
  | run action =>
    dsimp only
    rw [List.filterMap_cons, hevents]
    cases f (.render taken.action (.ok (.run action))) <;> rfl

theorem filterMap_flatMap_shown {g : Taken A → β} {taken : List (Taken A)}
    (h : ∀ t ∈ taken, t.shown.filterMap f = [g t]) :
    (taken.flatMap Taken.shown).filterMap f = taken.map g := by
  induction taken with
  | nil => rfl
  | cons t taken ih =>
    rw [List.flatMap_cons, List.filterMap_append, h t List.mem_cons_self,
      ih fun t' ht' ↦ h t' (List.mem_cons_of_mem t ht'), List.map_cons, List.singleton_append]

/-- A reading of executed actions passes over the reports and over what the policy answers. -/
theorem filterMap_traceOf_shown {g : Taken A → β} (hact : ∀ answer, f (.act answer) = none)
    (htelemetry : ∀ row answer, f (.telemetry row answer) = none)
    (hobserve : ∀ action result answer, f (.observe action result answer) = none)
    {turns : List (Turn A)} (h : ∀ t ∈ turns.flatMap Turn.taken, t.shown.filterMap f = [g t])
    (stepIndex : ℕ) :
    (traceOf stepIndex turns).filterMap f = (turns.flatMap Turn.taken).map g := by
  have hreported : ∀ previous (taken : List (Taken A)) call,
      (reported previous call taken).filterMap f = [] := by
    intro previous taken
    induction taken with
    | nil => exact fun _ ↦ rfl
    | cons t taken ih =>
      intro call
      rw [reported, List.filterMap_cons_none (htelemetry _ _),
        List.filterMap_cons_none (hobserve _ _ _), ih]
  induction turns generalizing stepIndex with
  | nil => rfl
  | cons turn turns ih =>
    rw [traceOf, List.filterMap_append, List.flatMap_cons, List.map_append,
      ih fun t ht ↦ h t (by rw [List.flatMap_cons]; exact List.mem_append_right _ ht)]
    congr 1
    cases turn with
    | idle answer =>
      rw [Turn.events, List.filterMap_cons_none (hact _), List.filterMap_cons_none (htelemetry _ _)]
      rfl
    | batch actions taken =>
      rw [Turn.events, List.filterMap_cons_none (hact _), List.filterMap_append, hreported,
        List.append_nil, Turn.taken]
      refine filterMap_flatMap_shown fun t ht ↦ h t ?_
      rw [List.flatMap_cons]
      exact List.mem_append_left _ ht

/-- A reading of the reports passes over the executed actions, and reads each turn by itself. -/
theorem filterMap_traceOf_reported (hact : ∀ answer, f (.act answer) = none) {turns : List (Turn A)}
    (h : ∀ t ∈ turns.flatMap Turn.taken, t.shown.filterMap f = [])
    {g : ℕ → Turn A → List β}
    (hidle : ∀ answer stepIndex,
      [Event.telemetry (.noValidActionStep (stepIndex + 1)) (.ok ())].filterMap f =
        g stepIndex (.idle answer))
    (hbatch : ∀ actions taken stepIndex,
      (reported stepIndex 0 taken).filterMap f = g stepIndex (.batch actions taken))
    {G : ℕ → List (Turn A) → List β} (hnil : ∀ stepIndex, G stepIndex [] = [])
    (hcons : ∀ stepIndex turn turns,
      G stepIndex (turn :: turns) = g stepIndex turn ++ G (stepIndex + turn.steps) turns)
    (stepIndex : ℕ) : (traceOf stepIndex turns).filterMap f = G stepIndex turns := by
  induction turns generalizing stepIndex with
  | nil => exact (hnil stepIndex).symm
  | cons turn turns ih =>
    rw [List.flatMap_cons] at h
    rw [traceOf, List.filterMap_append, hcons,
      ih fun t ht ↦ h t (List.mem_append_right _ ht)]
    congr 1
    cases turn with
    | idle answer => rw [Turn.events, List.filterMap_cons_none (hact _), hidle answer]
    | batch actions taken =>
      have hshown : (taken.flatMap Taken.shown).filterMap f = [] := by
        rw [List.filterMap_eq_nil_iff]
        intro event hevent
        obtain ⟨t, ht, hevent⟩ := List.mem_flatMap.mp hevent
        exact List.filterMap_eq_nil_iff.mp (h t (List.mem_append_left _ ht)) event hevent
      rw [Turn.events, List.filterMap_cons_none (hact _), List.filterMap_append, hshown,
        List.nil_append, hbatch actions]

theorem filterMap_traceOf_taken {g : Taken A → β} (hact : ∀ answer, f (.act answer) = none)
    (hidle : ∀ stepIndex answer, f (.telemetry (.noValidActionStep stepIndex) answer) = none)
    (hreported : ∀ taken stepIndex, (reported stepIndex 0 taken).filterMap f = taken.map g)
    {turns : List (Turn A)} (h : ∀ t ∈ turns.flatMap Turn.taken, t.shown.filterMap f = [])
    (stepIndex : ℕ) :
    (traceOf stepIndex turns).filterMap f = (turns.flatMap Turn.taken).map g := by
  refine filterMap_traceOf_reported hact h (g := fun _ turn ↦ turn.taken.map g) ?_
    (fun _ taken stepIndex ↦ hreported taken stepIndex)
    (G := fun _ turns ↦ (turns.flatMap Turn.taken).map g) (fun _ ↦ rfl) ?_ stepIndex
  · intro answer stepIndex
    rw [List.filterMap_cons_none (hidle _ _)]
    rfl
  · intro _ turn turns
    rw [List.flatMap_cons, List.map_append]

theorem stepLabels_reported (previousStepIndex : ℕ) (taken : List (Taken A)) (callIndex : ℕ) :
    (reported previousStepIndex callIndex taken).filterMap Event.stepLabel? =
      List.range' (previousStepIndex + callIndex + 1) taken.length := by
  induction taken generalizing callIndex with
  | nil => rfl
  | cons t taken ih =>
    simp only [reported, List.filterMap_cons, Event.stepLabel?, ih, List.length_cons,
      List.range'_succ, ← Nat.add_assoc]

theorem completed_reported (previousStepIndex : ℕ) (taken : List (Taken A)) (callIndex : ℕ) :
    (reported previousStepIndex callIndex taken).filterMap Event.completed? =
      taken.map fun t ↦ t.step.stepResult := by
  induction taken generalizing callIndex with
  | nil => rfl
  | cons t taken ih =>
    simp only [reported, List.filterMap_cons, Event.completed?, ih, List.map_cons]

theorem observed_reported (previousStepIndex : ℕ) (taken : List (Taken A)) (callIndex : ℕ) :
    (reported previousStepIndex callIndex taken).filterMap Event.observed? =
      taken.map fun t ↦ (t.action, t.step.stepResult) := by
  induction taken generalizing callIndex with
  | nil => rfl
  | cons t taken ih =>
    simp only [reported, List.filterMap_cons, Event.observed?, ih, List.map_cons]

end Readings

/-! ## Balance -/

section Balance

variable {A σ : Type} {u : Unicode}
  {Shows : EnvAction → List (Event A) → Option StepResult → Prop}

/-- The records of an episode of `n` steps agree with its action chain. -/
structure Balanced (maxSteps n : ℕ) (trace : List (Event A)) (chain : List ChainStep)
    (outcome : LoopOutcome) : Prop where
  within : n ≤ maxSteps
  /-- The labels are 1, 2, ..., n. -/
  labels : trace.filterMap Event.stepLabel? = List.range' 1 n
  /-- One row per executed action. -/
  completed : trace.filterMap Event.completed? = chain.map ChainStep.stepResult
  /-- A submit is verified, any other action runs what it was rendered to. -/
  requested : trace.filterMap Event.requested? = chain.map ChainStep.envAction
  /-- The policy sees every transition once, in order, with its action. -/
  observed : trace.filterMap Event.observed? =
    (trace.filterMap Event.named?).zip (chain.map ChainStep.stepResult)
  verify_last : ∀ step ∈ chain.dropLast, step.envAction ≠ .verify
  terminal_last : ∀ step ∈ chain.dropLast, step.stepResult.terminal = false
  submitted : outcome.ending = .submitted ↔
    ∃ step ∈ chain.getLast?, step.stepResult.terminal = true ∧ step.envAction = .verify
  /-- A batch is executed whole before any transition of it is reported. -/
  turns : ∃ opening turns tail, trace = opening ++ traceOf 0 turns ++ tail ∧
    (∀ actions taken, Turn.batch actions taken ∈ turns → taken.map Taken.action <+: actions) ∧
    ∀ event ∈ opening ++ tail, event.observed? = none

/-- A verdict ends the episode. -/
def VerdictEnds (Shows : EnvAction → List (Event A) → Option StepResult → Prop) : Prop :=
  ∀ events result, Shows .verify events (some result) → result.terminal = true

theorem verdictEnds_live (world : World A) : VerdictEnds (LiveShows world) := by
  rintro events result ⟨trace, -, h⟩
  obtain ⟨outcome, -, rfl⟩ := h result rfl
  rfl

theorem terminal_scrubStepResult (command : Option String) (result : StepResult) :
    (u.scrubStepResult command result).terminal = result.terminal := by
  rw [StepResult.terminal, StepResult.terminal, Unicode.scrubStepResult]

/-- An action that did not end the episode was not a submit. -/
theorem Taken.Valid.ne_verify (hends : VerdictEnds Shows) {taken : Taken A}
    (h : taken.Valid u Shows) (hrunning : taken.terminal = false) :
    taken.step.envAction ≠ .verify := by
  intro hverify
  rw [terminal] at hrunning
  rcases h.result with ⟨result, hshows, -, hresult⟩ | ⟨-, -, hresult⟩
  · rw [hverify] at hshows
    rw [hresult, terminal_scrubStepResult, hends _ _ hshows] at hrunning
    cases hrunning
  · rw [hresult] at hrunning
    cases hrunning

section Accounted

variable {maxSteps : ℕ} {opening : List (Event A)} {turns : List (Turn A)} {outcome : LoopOutcome}
  {s : Rollout A σ}

theorem Accounted.valid_taken (h : Accounted u Shows maxSteps opening [] turns outcome s)
    {t : Taken A} (ht : t ∈ turns.flatMap Turn.taken) : t.Valid u Shows := by
  obtain ⟨turn, hturn, ht⟩ := List.mem_flatMap.mp ht
  cases turn with
  | idle answer => cases ht
  | batch actions taken => exact (h.valid _ hturn).2.2 t ht

/-- A reading that finds nothing before the turns reads the turns. -/
theorem Accounted.filterMap_trace (h : Accounted u Shows maxSteps opening [] turns outcome s)
    {β : Type} {f : Event A → Option β} (hopening : ∀ event ∈ opening, f event = none)
    (hact : ∀ answer, f (.act answer) = none) :
    s.trace.filterMap f = (traceOf 0 turns).filterMap f := by
  obtain ⟨tail, htrace, htail⟩ := h.trace
  have hopening : opening.filterMap f = [] := List.filterMap_eq_nil_iff.mpr hopening
  rw [htrace, List.filterMap_append, List.filterMap_append, hopening, List.nil_append]
  rcases htail with rfl | ⟨text, rfl⟩
  · rw [List.filterMap_nil, List.append_nil]
  · rw [List.filterMap_cons_none (hact _), List.filterMap_nil, List.append_nil]

theorem Accounted.balanced (hends : VerdictEnds Shows)
    (h : Accounted u Shows maxSteps opening [] turns outcome s)
    (hopening : ∀ event ∈ opening, event.stepLabel? = none ∧ event.completed? = none ∧
      event.observed? = none ∧ event.named? = none ∧ event.requested? = none) :
    Balanced maxSteps (stepsOf turns) s.trace s.actionChain outcome := by
  have hchain : s.actionChain = (turns.flatMap Turn.taken).map Taken.step := h.chain
  refine ⟨h.within, ?_, ?_, ?_, ?_, ?_, ?_, ?_, ?_⟩
  · rw [h.filterMap_trace (fun event hevent ↦ (hopening event hevent).1) fun _ ↦ rfl]
    refine filterMap_traceOf_reported (fun _ ↦ rfl) ?_
      (g := fun stepIndex turn ↦ List.range' (stepIndex + 1) turn.steps) (fun _ _ ↦ rfl) ?_
      (G := fun stepIndex turns ↦ List.range' (stepIndex + 1) (stepsOf turns)) (fun _ ↦ rfl) ?_ 0
    · intro t ht
      rw [(h.valid_taken ht).filterMap_shown fun event hevent ↦ (Event.unread_of_ofExecutor hevent).1]
      cases t.step.envAction <;> rfl
    · intro _ taken stepIndex
      exact stepLabels_reported stepIndex taken 0
    · intro stepIndex turn turns
      rw [stepsOf, List.map_cons, List.sum_cons, ← List.range'_append_1, stepsOf,
        Nat.add_right_comm]
  · rw [h.filterMap_trace (fun event hevent ↦ (hopening event hevent).2.1) fun _ ↦ rfl, hchain, List.map_map]
    refine filterMap_traceOf_taken (fun _ ↦ rfl) (fun _ _ ↦ rfl)
      (fun taken stepIndex ↦ completed_reported stepIndex taken 0) ?_ 0
    intro t ht
    rw [(h.valid_taken ht).filterMap_shown fun event hevent ↦ (Event.unread_of_ofExecutor hevent).2.1]
    cases t.step.envAction <;> rfl
  · rw [h.filterMap_trace (fun event hevent ↦ (hopening event hevent).2.2.2.2) fun _ ↦ rfl, hchain,
      List.map_map]
    refine filterMap_traceOf_shown (fun _ ↦ rfl) (fun _ _ ↦ rfl) (fun _ _ _ ↦ rfl) ?_ 0
    intro t ht
    rw [(h.valid_taken ht).filterMap_shown fun event hevent ↦
      (Event.unread_of_ofExecutor hevent).2.2.2.2, Event.requested?]
    have hsubmit := (h.valid_taken ht).submit
    cases haction : t.step.envAction with
    | run action =>
      rw [if_neg (by rw [hsubmit, haction]; simp)]
      simp [Event.requested?, haction]
    | verify =>
      rw [if_pos (by rw [hsubmit, haction])]
      simp [haction]
  · have hnamed : s.trace.filterMap Event.named? = (turns.flatMap Turn.taken).map Taken.action := by
      rw [h.filterMap_trace (fun event hevent ↦ (hopening event hevent).2.2.2.1) fun _ ↦ rfl]
      refine filterMap_traceOf_shown (fun _ ↦ rfl) (fun _ _ ↦ rfl) (fun _ _ _ ↦ rfl) ?_ 0
      intro t ht
      rw [(h.valid_taken ht).filterMap_shown fun event hevent ↦
        (Event.unread_of_ofExecutor hevent).2.2.2.1]
      cases t.step.envAction <;> rfl
    rw [h.filterMap_trace (fun event hevent ↦ (hopening event hevent).2.2.1) fun _ ↦ rfl, hnamed, hchain,
      List.map_map, List.zip_map']
    refine filterMap_traceOf_taken (fun _ ↦ rfl) (fun _ _ ↦ rfl)
      (fun taken stepIndex ↦ observed_reported stepIndex taken 0) ?_ 0
    intro t ht
    rw [(h.valid_taken ht).filterMap_shown fun event hevent ↦ (Event.unread_of_ofExecutor hevent).2.2.1]
    cases t.step.envAction <;> rfl
  · rw [hchain, ← List.map_dropLast]
    rintro _ hstep
    obtain ⟨t, ht, rfl⟩ := List.mem_map.mp hstep
    exact (h.valid_taken (List.dropLast_subset _ ht)).ne_verify hends (h.running t ht)
  · rw [hchain, ← List.map_dropLast]
    rintro _ hstep
    obtain ⟨t, ht, rfl⟩ := List.mem_map.mp hstep
    exact h.running t ht
  · rw [h.submitted, hchain, List.getLast?_map]
    cases (turns.flatMap Turn.taken).getLast? <;> simp [Taken.terminal]
  · obtain ⟨tail, htrace, htail⟩ := h.trace
    refine ⟨opening, turns, tail, htrace, fun actions taken hturn ↦ (h.valid _ hturn).2.1, ?_⟩
    intro event hevent
    rcases List.mem_append.mp hevent with hevent | hevent
    · exact (hopening event hevent).2.2.1
    · rcases htail with rfl | ⟨text, rfl⟩
      · cases hevent
      · rw [List.mem_singleton.mp hevent]
        rfl

/-- What a live run asks the environment is its action chain. -/
theorem Accounted.environmentCalls {world : World A}
    (h : Accounted u (LiveShows world) maxSteps opening [] turns outcome s)
    (hopening : ∀ event ∈ opening, event.environmentCall? = none) :
    s.trace.filterMap Event.environmentCall? = s.actionChain.map ChainStep.envAction := by
  have hchain : s.actionChain = (turns.flatMap Turn.taken).map Taken.step := h.chain
  rw [h.filterMap_trace hopening fun _ ↦ rfl, hchain, List.map_map]
  refine filterMap_traceOf_shown (fun _ ↦ rfl) (fun _ _ ↦ rfl) (fun _ _ _ ↦ rfl) ?_ 0
  intro t ht
  have hevents : ∃ result, LiveShows world t.step.envAction t.events result := by
    rcases (h.valid_taken ht).result with ⟨result, hshows, -⟩ | ⟨hshows, -⟩
    · exact ⟨_, hshows⟩
    · exact ⟨_, hshows⟩
  rw [Taken.shown]
  obtain ⟨result, hshows⟩ := hevents
  cases haction : t.step.envAction with
  | run action =>
    rw [haction] at hshows
    obtain ⟨trace, hevents, -⟩ := hshows
    rw [hevents, Function.comp, haction]
    rfl
  | verify =>
    rw [haction] at hshows
    obtain ⟨trace, hevents, -⟩ := hshows
    rw [hevents, Function.comp, haction]
    rfl

end Accounted

/-- What comes before the first turn. -/
theorem unread_opening {output : RawEnvOutput} {events : List (Event A)}
    (hprovision : ∀ event ∈ events, event.isProvision = true) {event : Event A}
    (hevent : event ∈ .reset (.ok output) :: (events ++ [.policyReset output (.ok ())])) :
    (event.stepLabel? = none ∧ event.completed? = none ∧ event.observed? = none ∧
      event.named? = none ∧ event.requested? = none) ∧ event.environmentCall? = none := by
  rcases List.mem_cons.mp hevent with rfl | hevent
  · exact ⟨⟨rfl, rfl, rfl, rfl, rfl⟩, rfl⟩
  · rcases List.mem_append.mp hevent with hevent | hevent
    · have h := hprovision event hevent
      cases event <;> first
        | exact ⟨⟨rfl, rfl, rfl, rfl, rfl⟩, rfl⟩
        | cases h
    · rw [List.mem_singleton.mp hevent]
      exact ⟨⟨rfl, rfl, rfl, rfl, rfl⟩, rfl⟩

/-- **A run that returns a step count leaves balanced records.** -/
theorem EpisodeDone.balanced (hends : VerdictEnds Shows) {maxSteps n : ℕ} {outcome : LoopOutcome}
    {executor : σ} {s : Rollout A σ}
    (h : EpisodeDone u Shows maxSteps { executor } outcome s) (hsteps : outcome.stepsTaken = some n) :
    Balanced maxSteps n s.trace s.actionChain outcome := by
  rcases h with ⟨output, events, turns, hprovision, haccounted⟩ | ⟨hfailed, -⟩
  · obtain rfl : stepsOf turns = n := Option.some.inj (haccounted.steps.symm.trans hsteps)
    exact haccounted.balanced hends fun event hevent ↦ (unread_opening hprovision hevent).1
  · cases hfailed.steps.symm.trans hsteps

end Balance

end HarnessTraining
