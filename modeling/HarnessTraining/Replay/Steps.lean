import HarnessTraining.Replay.StepCache
import HarnessTraining.Rollout.Grade

/-!
# The steps of the cache

The rules of the operations of `ReplayCache`, and what the episode loop needs of it as an executor.

* `wp_cacheGet`, `wp_cachePut`, `wp_advance`, `wp_update` — one rule per access.
* `stepwise_replay` — the cache adds events of its own and nothing else.
* `runTaskLoop_balanced` — the accounts of an episode, live or replayed.
-/

set_option autoImplicit false

namespace HarnessTraining

open StateExcept

/-- What the environment answered in an event is what it answers after `trace`. -/
def Event.AnsweredBy {A : Type} (world : World A) (trace : List (Event A)) : Event A → Prop
  | .execute action answer => answer = world.execute trace action
  | .verify answer => answer = world.verify trace
  | _ => True

namespace ReplayCache

variable {A : Type} {u : Unicode} {hexdigest : Hexdigest} {scope : ReplayScope} {world : World A}

section Rules

variable {E : LoopError → Rollout A ReplayCache → Prop} {s : Rollout A ReplayCache}

@[simp]
theorem wp_update {f : ReplayCache → ReplayCache} {Q : Unit → Rollout A ReplayCache → Prop} :
    wp (update f) Q E s ↔ Q () { s with executor := f s.executor } := Iff.rfl

theorem wp_cacheGet {key : String} {Q : Option String → Rollout A ReplayCache → Prop} :
    wp (cacheGet world key) Q E s ↔
      (∀ value, world.get s.trace key = .ok value → Q value (s.push (.get key (.ok value)))) ∧
      (world.get s.trace key = .error .cancelled →
        E .cancelled (s.push (.get key (.error .cancelled)))) ∧
      ∀ error, world.get s.trace key = .error (.raised error) →
        Q none (s.push (.get key (.error (.raised error)))) := by
  rw [cacheGet, wp_bind, wp_perform]
  rcases world.get s.trace key with (_ | error) | value <;> simp

theorem wp_cachePut {key value : String} {Q : Unit → Rollout A ReplayCache → Prop} :
    wp (cachePut world key value) Q E s ↔
      (world.put s.trace key value = .ok () → Q () (s.push (.put key value (.ok ())))) ∧
      (world.put s.trace key value = .error .cancelled →
        E .cancelled (s.push (.put key value (.error .cancelled)))) ∧
      ∀ error, world.put s.trace key value = .error (.raised error) →
        Q () (s.push (.put key value (.error (.raised error)))) := by
  rw [cachePut, wp_bind, wp_perform]
  rcases world.put s.trace key value with (_ | error) | _ <;> simp

theorem wp_readRow {text : String} {Q : StepResult → Rollout A ReplayCache → Prop} :
    wp (readRow text) Q E s ↔ (∀ result, deserialize text = some result → Q result s) ∧
      (deserialize text = none → E (.foreign "the row is not a step result") s) := by
  rw [readRow]
  cases deserialize text <;> simp

theorem wp_advance {action : EnvAction} {Q : String → Rollout A ReplayCache → Prop} :
    wp (advance hexdigest action) Q E s ↔
      Q (keyOf (advanceDigest hexdigest s.executor.digest action))
        { s with executor :=
          { s.executor with digest := advanceDigest hexdigest s.executor.digest action } } := by
  rw [advance, wp_bind, wp_update, wp_bind, wp_get, wp_pure]

end Rules

section Execution

variable {σ : Type} {Q : StepResult → Rollout A σ → Prop} {E : LoopError → Rollout A σ → Prop}
  {s : Rollout A σ}

theorem wp_executeRun {action : RunAction} :
    wp (executeEnvAction world (.run action)) Q E s ↔
      (∀ raw, world.execute s.trace action = .ok raw →
        Q (.ofRun raw) (s.push (.execute action (.ok raw)))) ∧
      (world.execute s.trace action = .error .cancelled →
        E .cancelled (s.push (.execute action (.error .cancelled)))) ∧
      ∀ error, world.execute s.trace action = .error (.raised error) →
        E error.crossing (s.push (.execute action (.error (.raised error)))) := by
  rw [executeEnvAction, wp_bind, wp_perform, wp_bind, Answer.wp_orRaise]
  rcases world.execute s.trace action with (_ | error) | raw <;> simp

theorem wp_executeVerify :
    wp (executeEnvAction world .verify) Q E s ↔
      (∀ outcome, world.verify s.trace = .ok outcome →
        Q (.ofVerify outcome) (s.push (.verify (.ok outcome)))) ∧
      (world.verify s.trace = .error .cancelled →
        E .cancelled (s.push (.verify (.error .cancelled)))) ∧
      ∀ error, world.verify s.trace = .error (.raised error) →
        E error.crossing (s.push (.verify (.error (.raised error)))) := by
  rw [executeEnvAction, wp_bind, wp_perform, wp_bind, Answer.wp_orRaise]
  rcases world.verify s.trace with (_ | error) | outcome <;> simp

end Execution

/-! ## What the operations are made of -/

/-- A kind of program that composes, and that the accesses of the cache to the outside are of. -/
structure Accesses (world : World A) (kind : (α : Type) → LoopM A ReplayCache α → Prop) : Prop where
  pure : ∀ {α : Type} (a : α), kind α (pure a)
  /-- Only an access is cut short by a deadline. -/
  throw : ∀ {α : Type} (error : LoopError), error ≠ .cancelled → kind α (throw error)
  bind : ∀ {α β : Type} {m : LoopM A ReplayCache α} {f : α → LoopM A ReplayCache β},
    kind α m → (∀ a, kind β (f a)) → kind β (m >>= f)
  get : kind _ get
  update : ∀ f, kind _ (ReplayCache.update f)
  cacheGet : ∀ key, kind _ (ReplayCache.cacheGet world key)
  cachePut : ∀ key value, kind _ (ReplayCache.cachePut world key value)
  execute : ∀ action, kind _ (executeEnvAction world action)
  elapsed : kind _ (perform .elapsed world.elapsed)
  writeVerifyArtifacts : ∀ {α : Type} (result : StepResult) {m : LoopM A ReplayCache α}, kind α m →
    kind α (do
      let answer ← perform (.writeVerifyArtifacts result) fun trace ↦
        world.writeVerifyArtifacts trace result
      answer.orRaise EnvError.raw
      m)

section Accesses

variable {kind : (α : Type) → LoopM A ReplayCache α → Prop} (h : Accesses world kind)

include h

theorem Accesses.readRow (text : String) : kind _ (readRow (A := A) text) := by
  rw [ReplayCache.readRow]
  split
  · exact h.pure _
  · exact h.throw _ (by simp)

theorem Accesses.serveReplay (key : String) : kind _ (serveReplay world key) := by
  refine h.bind h.get fun rollout ↦ ?_
  split
  · exact h.pure _
  refine h.bind (h.cacheGet _) ?_
  rintro (_ | _)
  · refine h.bind (h.cacheGet _) ?_
    rintro (_ | text)
    · exact h.pure _
    · exact h.bind (h.readRow text) fun _ ↦ h.pure _
  · exact h.bind (h.update _) fun _ ↦ h.pure _

theorem Accesses.recordedResultForError (replayed : ReplayedStep) :
    kind _ (recordedResultForError u world replayed) := by
  refine h.bind (h.cacheGet _) ?_
  rintro (_ | text)
  · exact h.throw _ (by simp)
  · exact h.bind (h.readRow text) fun _ ↦ h.pure _

theorem Accesses.materializeFrom : ∀ (replayed : List ReplayedStep) (actionIndex : ℕ),
    kind _ (materializeFrom u hexdigest scope world actionIndex replayed)
  | [], _ => h.pure _
  | replayed :: rest, actionIndex => by
    rw [ReplayCache.materializeFrom]
    refine h.bind (h.execute _) fun result ↦ ?_
    dsimp only
    split
    · refine h.bind (h.cachePut _ _) fun _ ↦ ?_
      refine h.bind (h.recordedResultForError replayed) fun _ ↦ ?_
      exact h.bind (h.throw _ (by simp)) fun _ ↦ Accesses.materializeFrom rest _
    · exact Accesses.materializeFrom rest _

theorem Accesses.goLive : kind _ (goLive u hexdigest scope world) := by
  refine h.bind h.get fun rollout ↦ ?_
  split
  · exact h.pure _
  refine h.bind (h.update _) fun _ ↦ ?_
  refine h.bind h.get fun rollout' ↦ ?_
  exact h.bind (h.materializeFrom _ _) fun _ ↦ h.update _

theorem Accesses.recordRun (key : String) (action : RunAction) (result : StepResult)
    (elapsedSec : ℚ) : kind _ (recordRun u world key action result elapsedSec) := by
  refine h.bind h.get fun rollout ↦ ?_
  split
  · exact h.pure _
  split
  · exact h.update _
  · exact h.cachePut _ _

theorem Accesses.advance (action : EnvAction) : kind _ (advance (A := A) hexdigest action) :=
  h.bind (h.update _) fun _ ↦ h.bind h.get fun _ ↦ h.pure _

theorem Accesses.stepRun (action : RunAction) :
    kind _ (stepRun u hexdigest scope world action) := by
  refine h.bind (h.advance _) fun key ↦ ?_
  refine h.bind (h.serveReplay key) ?_
  rintro (_ | result)
  · refine h.bind h.goLive fun _ ↦ ?_
    refine h.bind (h.execute _) fun result ↦ ?_
    refine h.bind h.elapsed fun elapsedSec ↦ ?_
    exact h.bind (h.recordRun _ _ _ _) fun _ ↦ h.pure _
  · exact h.bind (h.update _) fun _ ↦ h.pure _

theorem Accesses.prepareSubmit : kind _ (prepareSubmit u hexdigest scope world) := by
  refine h.bind (h.advance _) fun key ↦ ?_
  refine h.bind (h.update _) fun _ ↦ ?_
  refine h.bind (h.serveReplay key) ?_
  rintro (_ | result)
  · exact h.bind h.goLive fun _ ↦ h.pure _
  · dsimp only
    split
    · exact h.writeVerifyArtifacts result (h.pure _)
    · exact h.pure _

theorem Accesses.stepVerify : kind _ (stepVerify world) := by
  refine h.bind h.get fun rollout ↦ ?_
  split
  · exact h.throw _ (by simp)
  have hverified : ∀ key, kind _ (do
      let result ← executeEnvAction world .verify
      let rollout ← MonadState.get
      if rollout.executor.recordableChain then
        ReplayCache.cachePut world key (serializeStepResult result)
      return result) := by
    intro key
    refine h.bind (h.execute _) fun result ↦ ?_
    refine h.bind h.get fun rollout' ↦ ?_
    dsimp only
    split
    · exact h.bind (h.cachePut _ _) fun _ ↦ h.pure _
    · exact h.pure _
  dsimp only
  split
  · exact h.bind (h.throw _ (by simp)) fun _ ↦ hverified _
  · exact hverified _

end Accesses

/-! ## The cache adds events of its own -/

/-- Events of the executor have been added. -/
def Extends (s s' : Rollout A ReplayCache) : Prop := ∃ events, Adds events s s'

theorem Extends.refl (s : Rollout A ReplayCache) : Extends s s := ⟨[], .refl⟩

theorem Extends.trans (a b c : Rollout A ReplayCache) (h : Extends a b) (h' : Extends b c) :
    Extends a c := by
  obtain ⟨events, h⟩ := h
  obtain ⟨events', h'⟩ := h'
  exact ⟨_, h.trans h'⟩

theorem Extends.of_push {s : Rollout A ReplayCache} {event : Event A}
    (h : event.ofExecutor = true) : Extends s (s.push event) := ⟨_, Adds.refl.push h⟩

/-- A relation between the states before and after that no operation of the cache leaves: it bears a
change of the cache and an event of the executor. -/
structure Allows (world : World A) (r : Rollout A ReplayCache → Rollout A ReplayCache → Prop) :
    Prop where
  refl : ∀ s, r s s
  trans : ∀ s s' s'', r s s' → r s' s'' → r s s''
  update : ∀ f, Preserves r (ReplayCache.update (A := A) f)
  push : ∀ event s, event.ofExecutor = true → event.AnsweredBy world s.trace → r s (s.push event)

theorem Allows.accesses {r : Rollout A ReplayCache → Rollout A ReplayCache → Prop} (h : Allows world r) :
    Accesses world fun _ m ↦ Preserves r m where
  pure a := .pure h.refl a
  throw error _ := .throw h.refl error
  bind hm hf := .bind h.trans hm hf
  get := h.refl
  update := h.update
  cacheGet key s := by
    rw [wp_cacheGet]
    exact ⟨fun _ _ ↦ h.push _ s rfl trivial, fun _ ↦ h.push _ s rfl trivial,
      fun _ _ ↦ h.push _ s rfl trivial⟩
  cachePut key value s := by
    rw [wp_cachePut]
    exact ⟨fun _ ↦ h.push _ s rfl trivial, fun _ ↦ h.push _ s rfl trivial,
      fun _ _ ↦ h.push _ s rfl trivial⟩
  execute action s := by
    cases action with
    | run action =>
      rw [wp_executeRun]
      exact ⟨fun _ hanswer ↦ h.push _ s rfl hanswer.symm, fun hanswer ↦ h.push _ s rfl hanswer.symm,
        fun _ hanswer ↦ h.push _ s rfl hanswer.symm⟩
    | verify =>
      rw [wp_executeVerify]
      exact ⟨fun _ hanswer ↦ h.push _ s rfl hanswer.symm, fun hanswer ↦ h.push _ s rfl hanswer.symm,
        fun _ hanswer ↦ h.push _ s rfl hanswer.symm⟩
  elapsed s := h.push _ s rfl trivial
  writeVerifyArtifacts result _ hm := by
    refine .bind h.trans (fun s ↦ ?_) fun answer ↦ .bind h.trans (fun s ↦ ?_) fun _ ↦ hm
    · exact wp_perform.mpr (h.push _ s rfl trivial)
    · exact Answer.wp_orRaise.mpr ⟨fun _ _ ↦ h.refl s, fun _ ↦ h.refl s, fun _ _ ↦ h.refl s⟩

theorem Extends.allows : Allows world (Extends (A := A)) where
  refl := .refl
  trans := .trans
  update _ _ := ⟨[], (List.append_nil _).symm, rfl, by simp⟩
  push _ _ h _ := .of_push h

theorem preserves_cachePut (key value : String) : Preserves Extends (cachePut world key value) :=
  Extends.allows.accesses.cachePut key value

theorem preserves_serveReplay (key : String) : Preserves Extends (serveReplay world key) :=
  Extends.allows.accesses.serveReplay key

theorem preserves_goLive : Preserves Extends (goLive u hexdigest scope world) :=
  Extends.allows.accesses.goLive

theorem preserves_stepRun (action : RunAction) :
    Preserves Extends (stepRun u hexdigest scope world action) :=
  Extends.allows.accesses.stepRun action

theorem preserves_prepareSubmit : Preserves Extends (prepareSubmit u hexdigest scope world) :=
  Extends.allows.accesses.prepareSubmit

/-! ## The accounts of a replayed episode -/

/-- The rows under the keys of submits are verdicts, as `step_verify` records them. -/
def VerdictRows (hexdigest : Hexdigest) (world : World A) : Prop :=
  ∀ trace digest text result,
    world.get trace (keyOf (advanceDigest hexdigest digest .verify)) = .ok (some text) →
    deserialize text = some result → result.terminal = true

/-- What the cache shows of a step, live or served: a submit ends the episode. -/
def ReplayShows (envAction : EnvAction) (_ : List (Event A)) (result : Option StepResult) : Prop :=
  envAction = .verify → ∀ r, result = some r → r.terminal = true

theorem serveReplay_row {key : String} {s : Rollout A ReplayCache} :
    wp (serveReplay world key)
      (fun served s' ↦ Extends s s' ∧ ∀ r, served = some r → ∃ trace text,
        world.get trace key = .ok (some text) ∧ deserialize text = some r)
      (fun _ s' ↦ Extends s s') s := by
  suffices hrow : wp (serveReplay world key) (fun served _ ↦ ∀ r, served = some r →
      ∃ trace text, world.get trace key = .ok (some text) ∧ deserialize text = some r)
      (fun _ _ ↦ True) s from
    wp_mono (wp_and (preserves_serveReplay key s) hrow) (fun _ _ h ↦ h) fun _ _ h ↦ h.1
  rw [serveReplay, wp_bind, wp_get]
  split
  · simp
  rw [wp_bind, wp_cacheGet]
  have hmiss : ∀ s' : Rollout A ReplayCache, wp (serveRow world key)
      (fun served _ ↦ ∀ r, served = some r → ∃ trace text,
        world.get trace key = .ok (some text) ∧ deserialize text = some r)
      (fun _ _ ↦ True) s' := by
    intro s'
    rw [serveRow, wp_bind, wp_cacheGet]
    refine ⟨?_, fun _ ↦ trivial, fun _ _ ↦ by simp⟩
    rintro (_ | text) hrow
    · simp
    · rw [wp_bind, wp_readRow]
      refine ⟨fun result hresult ↦ ?_, fun _ ↦ trivial⟩
      rintro r ⟨⟩
      exact ⟨_, text, hrow, hresult⟩
  refine ⟨?_, fun _ ↦ trivial, fun _ _ ↦ hmiss _⟩
  rintro (_ | text) _
  · exact hmiss _
  · rw [wp_bind, wp_update]
    simp

theorem stepVerify_spec (s : Rollout A ReplayCache) :
    wp (stepVerify world)
      (fun result s' ↦ Extends s s' ∧ result.terminal = true) (fun _ s' ↦ Extends s s') s := by
  rw [stepVerify, wp_bind, wp_get]
  split
  · exact .refl s
  dsimp only
  rw [wp_ite]
  refine ⟨fun _ ↦ .refl s, fun _ ↦ ?_⟩
  rw [wp_bind]
  refine wp_mono (executeEnvAction_spec world .verify s) ?_ ?_
  · rintro result s₁ ⟨events, hadds, hshows⟩
    have hterminal : result.terminal = true := verdictEnds_live world events result hshows
    rw [wp_bind, wp_get]
    split
    · rw [wp_bind]
      refine wp_mono (preserves_cachePut _ _ s₁) ?_ fun _ s₂ h ↦ Extends.trans _ _ _ ⟨_, hadds⟩ h
      exact fun _ s₂ h ↦ ⟨Extends.trans _ _ _ ⟨_, hadds⟩ h, hterminal⟩
    · exact ⟨⟨_, hadds⟩, hterminal⟩
  · rintro _ _ ⟨events, hadds, -⟩
    exact ⟨events, hadds⟩

theorem prepareSubmit_spec (hrows : VerdictRows hexdigest world) (s : Rollout A ReplayCache) :
    wp (prepareSubmit u hexdigest scope world)
      (fun served s' ↦ Extends s s' ∧ ∀ r, served = some r → r.terminal = true)
      (fun _ s' ↦ Extends s s') s := by
  rw [prepareSubmit, wp_bind, wp_advance, wp_bind, wp_update, wp_bind]
  refine wp_mono serveReplay_row ?_ fun _ _ h ↦ h
  rintro (_ | result) s₁ ⟨hextends, hrow⟩
  · rw [wp_bind]
    refine wp_mono (preserves_goLive s₁) ?_ fun _ s₂ h ↦ Extends.trans _ _ _ hextends h
    exact fun _ s₂ h ↦ ⟨Extends.trans _ _ _ hextends h, by simp⟩
  · obtain ⟨trace, text, hget, hresult⟩ := hrow result rfl
    have hterminal := hrows trace _ text result hget hresult
    dsimp only
    rw [wp_ite, wp_bind, wp_perform, wp_bind]
    refine ⟨fun _ ↦ ?_, fun _ ↦ ⟨hextends, fun r hr ↦ Option.some.inj hr ▸ hterminal⟩⟩
    have hwritten : ∀ answer, Extends s (s₁.push (.writeVerifyArtifacts result answer)) :=
      fun answer ↦ Extends.trans _ _ _ hextends (.of_push rfl)
    rw [Answer.wp_orRaise]
    exact ⟨fun _ _ ↦ ⟨hwritten _, fun r hr ↦ Option.some.inj hr ▸ hterminal⟩, fun _ ↦ hwritten _,
      fun _ _ ↦ hwritten _⟩

theorem stepwise_replay (hrows : VerdictRows hexdigest world) :
    Stepwise (executor u hexdigest scope world) ReplayShows where
  provision s := ⟨[], .refl, by simp⟩
  stepRun action s := by
    refine wp_mono (preserves_stepRun action s) ?_ ?_
    · rintro result _ ⟨events, hadds⟩
      exact ⟨events, hadds, fun h ↦ by cases h⟩
    · rintro error _ ⟨events, hadds⟩
      exact ⟨events, hadds, fun _ h ↦ by cases h⟩
  submit s := by
    refine wp_mono (prepareSubmit_spec hrows s) ?_ fun _ _ h ↦ h
    rintro (_ | result) s₁ ⟨⟨events, hadds⟩, hserved⟩
    · refine ⟨⟨events, hadds⟩, wp_mono (stepVerify_spec s₁) ?_ ?_⟩
      · rintro result s₂ ⟨⟨events', hadds'⟩, hterminal⟩
        exact ⟨_, hadds.trans hadds', fun _ r hr ↦ Option.some.inj hr ▸ hterminal⟩
      · rintro error s₂ ⟨events', hadds'⟩
        exact ⟨_, hadds.trans hadds', fun _ _ r hr ↦ by cases hr⟩
    · exact ⟨⟨events, hadds⟩, events, hadds, fun _ ↦ hserved⟩

theorem verdictEnds_replay : VerdictEnds (ReplayShows (A := A)) :=
  fun _ _ hshows ↦ hshows rfl _ rfl

end ReplayCache

variable {A : Type}

/-- **The accounts of an episode.**  A run of the loop that returns a step count leaves balanced
records, on the live executor for every environment, and on the step cache for every store whose rows
of submits are verdicts; and what a live run asks the environment is its action chain. -/
theorem runTaskLoop_balanced (u : Unicode) (world : World A) (maxSteps : ℕ) (stallTimeoutSec : ℚ) :
    (∀ outcome s n,
      exec (runTaskLoop u world (liveStepExecutor world) maxSteps stallTimeoutSec)
        { executor := () } = (.ok outcome, s) → outcome.stepsTaken = some n →
      Balanced maxSteps n s.trace s.actionChain outcome ∧
        s.trace.filterMap Event.environmentCall? = s.actionChain.map ChainStep.envAction) ∧
    ∀ hexdigest scope, ReplayCache.VerdictRows hexdigest world → ∀ outcome s n,
      exec (runTaskLoop u world (ReplayCache.executor u hexdigest scope world) maxSteps
        stallTimeoutSec) { executor := .new hexdigest scope } = (.ok outcome, s) →
      outcome.stepsTaken = some n → Balanced maxSteps n s.trace s.actionChain outcome := by
  have hunseen : ∀ {σ : Type} (executor : σ), EndUnseen ({ executor } : Rollout A σ) := by
    rintro σ executor action result hmem
    cases hmem
  constructor
  · intro outcome s n hrun hsteps
    have hdone := wp_ok (runTaskLoop_spec (stepwise_live world) stallTimeoutSec (hunseen ())) hrun
    refine ⟨hdone.balanced (verdictEnds_live world) hsteps, ?_⟩
    rcases hdone with ⟨output, events, turns, hprovision, haccounted⟩ | ⟨hfailed, -⟩
    · exact haccounted.environmentCalls fun event hevent ↦ (unread_opening hprovision hevent).2
    · cases hfailed.steps.symm.trans hsteps
  · intro hexdigest scope hrows outcome s n hrun hsteps
    exact (wp_ok (runTaskLoop_spec (ReplayCache.stepwise_replay hrows) stallTimeoutSec
      (hunseen _)) hrun).balanced ReplayCache.verdictEnds_replay hsteps

/-- A submit at once, live and on a step cache that knows nothing. -/
theorem runTaskLoop_balanced_submit :
    (∃ outcome s, exec (runTaskLoop .ascii (submitWorld (.ok ()))
        (liveStepExecutor (submitWorld (.ok ()))) 1 1200) { executor := () } = (.ok outcome, s) ∧
      Balanced 1 1 s.trace s.actionChain outcome) ∧
    ∃ outcome s, exec (runTaskLoop .ascii (submitWorld (.ok ()))
        (ReplayCache.executor .ascii .spelled ⟨"task", 0⟩ (submitWorld (.ok ()))) 1 1200)
        { executor := .new .spelled ⟨"task", 0⟩ } = (.ok outcome, s) ∧
      Balanced 1 1 s.trace s.actionChain outcome := by
  have hbalanced := runTaskLoop_balanced .ascii (submitWorld (.ok ())) 1 1200
  have hrows : ReplayCache.VerdictRows .spelled (submitWorld (.ok ())) := by
    rintro trace digest text result hget
    cases hget
  exact ⟨⟨_, _, rfl, (hbalanced.1 _ _ 1 rfl rfl).1⟩,
    ⟨_, _, rfl, hbalanced.2 .spelled ⟨"task", 0⟩ hrows _ _ 1 rfl rfl⟩⟩

end HarnessTraining
