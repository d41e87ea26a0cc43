import HarnessTraining.Rollout.Runner

/-!
# The integrity of a grade

A rollout is graded `solved` exactly if its last executed action was a submit with a passing verdict
that the policy has seen, and the resources closed.

* `RolloutRunner.run_spec` — every record is concluded from what the loop left, before the resources
  were closed.
* `RolloutRunner.grade_integrity` — the grades `solved` and `verify_timeout`, read back.
-/

set_option autoImplicit false

namespace HarnessTraining

open StateExcept

section Grade

variable {A σ : Type} {u : Unicode} {world : World A} {runner : RolloutRunner A σ}
  {Shows : EnvAction → List (Event A) → Option StepResult → Prop}

theorem LoopOutcome.Failed.owned {outcome : LoopOutcome} (h : outcome.Failed) : outcome.Owned :=
  h.origin

theorem EndsAfter.owned {turns : List (Turn A)} {outcome : LoopOutcome}
    (h : EndsAfter turns outcome) : outcome.Owned := by
  intro hcrash
  rcases h.ending with h | h | h | h <;> cases h.symm.trans hcrash

namespace RolloutRunner

theorem wp_cleanUp {Q : Option String → Rollout A σ → Prop} {E : LoopError → Rollout A σ → Prop}
    {s : Rollout A σ} :
    wp (cleanUp world) Q E s ↔
      (world.writeChain (s.trace ++ [.close (world.close s.trace)]) s.actionChain = .ok () →
        Q (closeError (world.close s.trace))
          ((s.push (.close (world.close s.trace))).push (.writeChain s.actionChain (.ok ())))) ∧
      ∀ text, world.writeChain (s.trace ++ [.close (world.close s.trace)]) s.actionChain =
          .error text →
        E (.foreign text)
          ((s.push (.close (world.close s.trace))).push (.writeChain s.actionChain (.error text))) := by
  rw [cleanUp, wp_bind, wp_perform, wp_bind, wp_get, wp_bind, wp_perform]
  have hchain : (s.push (.close (world.close s.trace))).actionChain = s.actionChain := rfl
  have htrace : (s.push (.close (world.close s.trace))).trace =
      s.trace ++ [.close (world.close s.trace)] := rfl
  rw [hchain, htrace]
  cases world.writeChain (s.trace ++ [.close (world.close s.trace)]) s.actionChain <;> simp

/-- What the policy's part of a rollout leaves: an account of the loop, or a failure before the
policy has seen the end of the episode. -/
theorem buildAndLoop_spec (hstep : Stepwise runner.executor Shows) {s : Rollout A σ}
    (hunseen : EndUnseen s) :
    wp (buildAndLoop u world runner)
      (fun outcome s' ↦
        EpisodeDone u Shows runner.maxSteps (s.push (.build (.ok none))) outcome s')
      (fun _ _ ↦ True) s := by
  rw [buildAndLoop, wp_bind, wp_perform]
  have hbuilt : ∀ answer, EndUnseen (s.push (.build answer)) :=
    fun answer ↦ hunseen.silent (Only.refl.push rfl)
  cases world.build s.trace with
  | ok typeName =>
    cases typeName with
    | none =>
      exact wp_mono (runTaskLoop_spec hstep runner.stallTimeoutSec (hbuilt _)) (fun _ _ h ↦ h)
        fun _ _ _ ↦ trivial
    | some typeName => exact Or.inr ⟨.crashed, hbuilt _⟩
  | error error =>
    dsimp only
    split
    · exact Or.inr ⟨.crashed, hbuilt _⟩
    · exact Or.inr ⟨.crashed, hbuilt _⟩
    · trivial

/-- A record is concluded from what the loop left, before the resources were closed. -/
theorem run_spec (hstep : Stepwise runner.executor Shows) {s : Rollout A σ}
    (hunseen : EndUnseen s) :
    wp (run u world runner)
      (fun result s' ↦ ∃ outcome answer s₁,
        EpisodeDone u Shows runner.maxSteps (s.push (.build (.ok none))) outcome s₁ ∧
        s'.trace = s₁.trace ++ [.close answer, .writeChain s₁.actionChain (.ok ())] ∧
        s'.actionChain = s₁.actionChain ∧
        runner.conclude (runner.telemetry s'.trace) outcome (closeError answer) = .ok result)
      (fun _ _ ↦ True) s := by
  rw [run, wp_bind, wp_tryCatch]
  refine wp_mono (buildAndLoop_spec hstep hunseen) ?_ ?_
  · intro outcome s₁ hdone
    rw [wp_bind, wp_cleanUp]
    refine ⟨fun _ ↦ ?_, fun _ _ ↦ trivial⟩
    rw [wp_bind, wp_get]
    have htrace : ((s₁.push (.close (world.close s₁.trace))).push
        (.writeChain s₁.actionChain (.ok ()))).trace = s₁.trace ++
          [.close (world.close s₁.trace), .writeChain s₁.actionChain (.ok ())] := by
      simp [Rollout.push]
    cases hconclude : runner.conclude (runner.telemetry _) outcome (closeError _) with
    | ok result => exact ⟨outcome, _, s₁, hdone, htrace, rfl, hconclude⟩
    | error error => trivial
  · intro error s₁ _
    rw [wp_bind, wp_cleanUp]
    exact ⟨fun _ ↦ trivial, fun _ _ ↦ trivial⟩

end RolloutRunner

/-! ## Reading a grade back -/

/-- A transition with a passing verdict. -/
structure StepResult.Passing (result : StepResult) : Prop where
  terminated : result.terminated = true
  truncated : result.truncated = false
  verdict : ∃ verdict, result.verdict = some verdict ∧ verdict.completed = true ∧
    verdict.passed = some true

theorem classifyLoopResult_solved {outcome : LoopOutcome} {classified : ClassifiedOutcome}
    (hclassify : classifyLoopResult outcome = .ok classified)
    (hsolved : classified.failureMode = .solved) :
    outcome.ending = .submitted ∧ ∃ final, outcome.final = some final ∧ final.truncated = false ∧
      ∃ verdict, final.verdict = some verdict ∧ verdict.completed = true ∧
        verdict.passed = some true := by
  rw [classifyLoopResult] at hclassify
  split at hclassify
  · next final hending hfinal =>
    refine ⟨hending, final, hfinal, ?_⟩
    split at hclassify
    · cases hclassify
      cases hsolved
    · next htruncated =>
      refine ⟨Bool.eq_false_iff.mpr htruncated, ?_⟩
      split at hclassify
      · cases hclassify
      · next verdict hverdict =>
        split at hclassify
        · next hcompleted =>
          cases hclassify
          dsimp only at hsolved
          split at hsolved
          · next hpassed => exact ⟨verdict, hverdict, hcompleted, hpassed⟩
          · cases hsolved
        · cases hclassify
          cases hsolved
  all_goals cases hclassify <;> cases hsolved

theorem classifyLoopResult_passing {outcome : LoopOutcome} {final : StepResult}
    (hending : outcome.ending = .submitted) (hfinal : outcome.final = some final)
    (hpassing : final.Passing) :
    classifyLoopResult outcome =
      .ok { failureMode := .solved, reward := some final.reward } := by
  obtain ⟨verdict, hverdict, hcompleted, hpassed⟩ := hpassing.verdict
  rw [classifyLoopResult, hending, hfinal]
  dsimp only
  rw [if_neg (by rw [hpassing.truncated]; simp), hverdict]
  dsimp only
  rw [if_pos hcompleted, if_pos hpassed]

theorem classifyLoopResult_verifyTimeout {outcome : LoopOutcome} {classified : ClassifiedOutcome}
    (hclassify : classifyLoopResult outcome = .ok classified)
    (htimeout : classified.failureMode = .verifyTimeout) :
    outcome.ending = .submitted ∧ ∃ final, outcome.final = some final ∧ final.truncated = true := by
  rw [classifyLoopResult] at hclassify
  split at hclassify
  · next final hending hfinal =>
    refine ⟨hending, final, hfinal, ?_⟩
    split at hclassify
    · next htruncated => exact htruncated
    · split at hclassify
      · cases hclassify
      · split at hclassify
        · cases hclassify
          dsimp only at htimeout
          split at htimeout <;> cases htimeout
        · cases hclassify
          cases htimeout
  all_goals cases hclassify <;> cases htimeout

/-- A grade other than a crash is the loop's, and the resources closed. -/
theorem ClassifiedOutcome.closing_of_ne_crash {classified : ClassifiedOutcome} {answer : CloseAnswer}
    (h : (classified.closing (closeError answer)).failureMode ≠ .crash) :
    answer = .closed none none ∧ classified.closing (closeError answer) = classified := by
  rcases answer with _ | ⟨_ | env, _ | llm⟩
  · exact absurd rfl h
  · exact ⟨rfl, rfl⟩
  all_goals exact absurd rfl h

/-- The last executed action was a submit with a passing verdict, the policy has seen its transition,
and the resources closed in time. -/
def SolvedRun (s : Rollout A σ) : Prop :=
  ∃ before action step,
    s.trace = before ++ [.close (.closed none none), .writeChain s.actionChain (.ok ())] ∧
    s.actionChain.getLast? = some step ∧ step.envAction = .verify ∧ step.stepResult.Passing ∧
    .observe action step.stepResult (.ok ()) ∈ before

/-- The last action of an accounted run, on its chain and as the loop's final transition. -/
theorem Accounted.getLast? {maxSteps : ℕ} {opening : List (Event A)} {turns : List (Turn A)}
    {outcome : LoopOutcome} {s : Rollout A σ}
    (h : Accounted u Shows maxSteps opening [] turns outcome s) {t : Taken A}
    (ht : (turns.flatMap Turn.taken).getLast? = some t) :
    s.actionChain.getLast? = some t.step ∧ outcome.final = some t.step.stepResult := by
  refine ⟨?_, ?_⟩
  · rw [h.chain, List.nil_append, List.getLast?_map, ht]
    rfl
  · rw [h.final, lastSeen, ht]
    rfl

/-- **A solve is a passing submit that the policy has seen, with the resources closed.** -/
theorem RolloutRunner.solved_iff (hstep : Stepwise runner.executor Shows) {executor : σ}
    {result : RolloutResult} {s : Rollout A σ}
    (hrun : exec (run u world runner) { executor } = (.ok result, s)) :
    result.failureMode = .solved ↔ SolvedRun s := by
  have hunseen : EndUnseen ({ executor } : Rollout A σ) := by
    rintro action result hmem
    cases hmem
  obtain ⟨outcome, answer, s₁, hdone, htrace, hchain, hconclude⟩ :=
    wp_ok (run_spec hstep hunseen) hrun
  obtain ⟨classified, hclassify, hmode, -, -⟩ := conclude_eq_ok hconclude
  constructor
  · intro hsolved
    rw [hmode] at hsolved
    have hne : (classified.closing (closeError answer)).failureMode ≠ .crash := by
      rw [hsolved]
      simp
    obtain ⟨rfl, hclosing⟩ := ClassifiedOutcome.closing_of_ne_crash hne
    rw [hclosing] at hsolved
    obtain ⟨hending, final, hfinal, htruncated, hverdict⟩ :=
      classifyLoopResult_solved hclassify hsolved
    rcases hdone with ⟨output, events, turns, -, haccounted⟩ | ⟨hfailed, -⟩
    · obtain ⟨t, ht, hterminal, hverify⟩ := haccounted.submitted.mp hending
      obtain ⟨hlast, hfinal'⟩ := haccounted.getLast? ht
      obtain rfl : final = t.step.stepResult := Option.some.inj (hfinal.symm.trans hfinal')
      have hterminated : t.step.stepResult.terminated = true := by
        rw [Taken.terminal, StepResult.terminal, htruncated, Bool.or_false] at hterminal
        exact hterminal
      refine ⟨s₁.trace, t.action, t.step, by rw [htrace, hchain], by rw [hchain, hlast], hverify,
        ⟨hterminated, htruncated, hverdict⟩, ?_⟩
      obtain ⟨tail, htrace₁, -⟩ := haccounted.trace
      rw [htrace₁]
      exact List.mem_append_left _ (List.mem_append_right _
        (observe_mem_traceOf (List.mem_of_getLast? ht)))
    · cases hfailed.final.symm.trans hfinal
  · rintro ⟨before, action, step, htrace', hlast, hverify, hpassing, hobserved⟩
    have hcut := htrace.symm.trans htrace'
    obtain ⟨rfl, hclose⟩ := List.append_inj' hcut rfl
    obtain ⟨rfl, -⟩ : answer = .closed none none ∧ _ := by simpa using hclose
    have hterminal : step.stepResult.terminal = true := by
      rw [StepResult.terminal, hpassing.terminated, Bool.true_or]
    rcases hdone with ⟨output, events, turns, -, haccounted⟩ | ⟨-, hunseen₁⟩
    · rw [hchain] at hlast
      cases ht : (turns.flatMap Turn.taken).getLast? with
      | none =>
        have hchain₁ : s₁.actionChain = (turns.flatMap Turn.taken).map Taken.step :=
          haccounted.chain
        rw [hchain₁, List.getLast?_map, ht] at hlast
        cases hlast
      | some t =>
        obtain ⟨hlast', hfinal⟩ := haccounted.getLast? ht
        obtain rfl : t.step = step := Option.some.inj (hlast'.symm.trans hlast)
        have hending := haccounted.submitted.mpr ⟨t, ht, hterminal, hverify⟩
        rw [classifyLoopResult_passing hending hfinal hpassing] at hclassify
        cases hclassify
        exact hmode
    · cases hterminal.symm.trans (hunseen₁ action step.stepResult hobserved)

theorem EpisodeDone.owned {maxSteps : ℕ} {s s' : Rollout A σ} {outcome : LoopOutcome}
    (h : EpisodeDone u Shows maxSteps s outcome s') : outcome.Owned := by
  rcases h with ⟨_, _, _, -, haccounted⟩ | ⟨hfailed, -⟩
  · exact haccounted.toEndsAfter.owned
  · exact hfailed.owned

/-- If every verdict comes from a verification, a submit that is not cut short has one. -/
theorem EpisodeDone.verdict (hverify : ∀ events result, Shows .verify events (some result) →
      ∃ outcome, result = .ofVerify outcome)
    {maxSteps : ℕ} {s s' : Rollout A σ} {outcome : LoopOutcome} (hchain : s.actionChain = [])
    (h : EpisodeDone u Shows maxSteps s outcome s') (hending : outcome.ending = .submitted) :
    ∀ final ∈ outcome.final, final.truncated = true ∨ final.verdict.isSome = true := by
  intro final hfinal
  rcases h with ⟨_, _, turns, -, haccounted⟩ | ⟨hfailed, -⟩
  · rw [hchain] at haccounted
    obtain ⟨t, ht, -, haction⟩ := haccounted.submitted.mp hending
    obtain rfl : final = t.step.stepResult :=
      Option.some.inj (hfinal.symm.trans (haccounted.getLast? ht).2)
    rcases (haccounted.valid_taken (List.mem_of_getLast? ht)).result with
      ⟨result, hshows, -, hresult⟩ | ⟨-, -, hresult⟩
    · rw [haction] at hshows
      obtain ⟨outcome, rfl⟩ := hverify _ _ hshows
      rw [hresult]
      exact Or.inr rfl
    · rw [hresult]
      exact Or.inl rfl
  · cases hfailed.final.symm.trans hfinal

variable (u world runner) in
/-- **The grade of a rollout means what it says.**  The record of a run that returns is well formed;
it is `solved` exactly for a passing submit that the policy has seen, with the resources closed, and
`verify_timeout` only for a submit that was cut short.  A verdict is missing only if an executor
serves a submit that was never verified. -/
theorem RolloutRunner.grade_integrity (hstep : Stepwise runner.executor Shows) (executor : σ) :
    (∀ result s, exec (run u world runner) { executor } = (.ok result, s) →
      ((result.failureMode = .crash ↔ result.failureOrigin.isSome = true) ∧
        (result.failureMode = .solved → result.error = none)) ∧
      (result.failureMode = .solved ↔ SolvedRun s) ∧
      (result.failureMode = .verifyTimeout → ∃ step ∈ s.actionChain.getLast?,
        step.envAction = .verify ∧ step.stepResult.truncated = true)) ∧
    ((∀ events result, Shows .verify events (some result) → ∃ outcome, result = .ofVerify outcome) →
      ∀ outcome s, exec (buildAndLoop u world runner) { executor } = (.ok outcome, s) →
        ∃ classified, classifyLoopResult outcome = .ok classified) := by
  have hunseen : EndUnseen ({ executor } : Rollout A σ) := by
    rintro action result hmem
    cases hmem
  constructor
  · intro result s hrun
    refine ⟨⟨result.origin_iff, fun hsolved ↦ ?_⟩, solved_iff hstep hrun, fun htimeout ↦ ?_⟩
    · by_contra herror
      exact result.error_unsolved (Option.isSome_iff_ne_none.mpr herror) hsolved
    · obtain ⟨outcome, answer, s₁, hdone, -, hchain, hconclude⟩ :=
        wp_ok (run_spec hstep hunseen) hrun
      obtain ⟨classified, hclassify, hmode, -, -⟩ := conclude_eq_ok hconclude
      rw [hmode] at htimeout
      have hne : (classified.closing (closeError answer)).failureMode ≠ .crash := by
        rw [htimeout]
        simp
      obtain ⟨-, hclosing⟩ := ClassifiedOutcome.closing_of_ne_crash hne
      rw [hclosing] at htimeout
      obtain ⟨hending, final, hfinal, htruncated⟩ :=
        classifyLoopResult_verifyTimeout hclassify htimeout
      rcases hdone with ⟨_, _, turns, -, haccounted⟩ | ⟨hfailed, -⟩
      · obtain ⟨t, ht, -, hverify⟩ := haccounted.submitted.mp hending
        obtain ⟨hlast, hfinal'⟩ := haccounted.getLast? ht
        obtain rfl : final = t.step.stepResult := Option.some.inj (hfinal.symm.trans hfinal')
        exact ⟨t.step, by rw [hchain]; exact hlast, hverify, htruncated⟩
      · cases hfailed.final.symm.trans hfinal
  · intro hverify outcome s hloop
    have hdone := wp_ok (buildAndLoop_spec hstep hunseen) hloop
    obtain ⟨classified, hclassify, -⟩ :=
      classifyLoopResult_spec hdone.owned (hdone.verdict hverify rfl)
    exact ⟨classified, hclassify⟩

end Grade

/-! ## One submit

A policy that submits at once and passes.  Its grade depends on whether it can bear to look. -/

def passingOutcome : VerifyOutcome where
  verdict := { completed := true, passed := some true, error := none, valid := VerifyVerdict.valid_passed }
  output := {}
  reward := .int 1
  info := .empty
  metrics := .empty

/-- A submit that passes; `seen` is what the policy makes of it. -/
def submitWorld (seen : Except PolicyError Unit) : World Unit where
  build _ := .ok none
  reset _ := .ok {}
  provision _ := .ok ()
  execute _ _ := .ok {}
  verify _ := .ok passingOutcome
  isVerifyArtifactWriter := false
  writeVerifyArtifacts _ _ := .ok ()
  get _ _ := .ok none
  put _ _ _ := .ok ()
  elapsed _ := 0
  policyReset _ _ := .ok ()
  act _ := .actions [()]
  name _ _ := .ok "submit"
  render _ _ := .ok (.run { command := "" })
  observe _ _ _ := seen
  telemetry _ _ := .ok ()
  close _ := .closed none none
  writeChain _ _ := .ok ()

/-- A rollout of one step in a world, with the live executor. -/
def submitRunner (world : World Unit) : RolloutRunner Unit Unit where
  taskId := "task"
  executor := liveStepExecutor world
  maxSteps := 1
  stallTimeoutSec := 1200
  telemetry _ := {}

theorem RolloutRunner.grade_integrity_submit :
    ∃ result s, exec (run .ascii (submitWorld (.ok ())) (submitRunner (submitWorld (.ok ()))))
        { executor := () } = (.ok result, s) ∧
      result.failureMode = .solved ∧ SolvedRun s := by
  have hgrade := RolloutRunner.grade_integrity .ascii (submitWorld (.ok ()))
    (submitRunner (submitWorld (.ok ()))) (stepwise_live (submitWorld (.ok ()))) ()
  refine ⟨_, _, rfl, rfl, (hgrade.1 _ _ rfl).2.1.mp rfl⟩

/-- **A passing submit need not be a solve.**  The policy raises when it is shown the verdict, and the
rollout is a crash of the policy. -/
theorem RolloutRunner.passing_submit_unseen :
    ∃ result s before step,
      exec (run .ascii (submitWorld (.error (.other "RuntimeError: boom")))
          (submitRunner (submitWorld (.error (.other "RuntimeError: boom"))))) { executor := () } =
        (.ok result, s) ∧
      s.trace = before ++ [.close (.closed none none), .writeChain s.actionChain (.ok ())] ∧
      s.actionChain.getLast? = some step ∧ step.envAction = .verify ∧ step.stepResult.Passing ∧
      result.failureMode = .crash ∧ result.failureOrigin = some .policy := by
  refine ⟨_, _, [.build (.ok none), .reset (.ok {}), .provision (.ok ()), .policyReset {} (.ok ()),
    .act (.actions [()]), .name () (.ok "submit"), .verify (.ok passingOutcome),
    .telemetry (.stepCompleted 1 0 (Unicode.ascii.scrubStepResult none (.ofVerify passingOutcome))
      true) (.ok ()),
    .observe () (Unicode.ascii.scrubStepResult none (.ofVerify passingOutcome))
      (.error (.other "RuntimeError: boom"))], _, rfl, rfl, rfl, rfl,
    ⟨rfl, rfl, passingOutcome.verdict, rfl, rfl, rfl⟩, rfl, rfl⟩

end HarnessTraining
