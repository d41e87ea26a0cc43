import HarnessTraining.Replay.History

/-!
# Environments of histories

An environment whose raw results are a function of the actions it has executed.  On such an
environment a step has one result, whether it is executed live, or served from a row that an earlier
rollout on the environment recorded.

* `RunsOn` — a world in which the environment answers so; a deadline may cut a call short.
* `Shared.truthful` — every row that is read tells what the environment answers.
* `ReplayCache.stepRun_faithful`, `ReplayCache.submit_faithful` — the result of a step of the cache is
  the environment's.
* `Attested` — every transition on an action chain is the environment's, kept live and replayed.
-/

set_option autoImplicit false

namespace HarnessTraining

open StateExcept SharedStore

/-- An environment whose raw results are a function of the action history. -/
structure HistoryEnv where
  execute : List EnvAction → RunAction → Except EnvError RawEnvOutput
  verify : List EnvAction → Except EnvError VerifyOutcome

/-- The transition of an action after others. -/
def HistoryEnv.reply (env : HistoryEnv) (before : List EnvAction) : EnvAction → Except EnvError StepResult
  | .run action => (env.execute before action).map StepResult.ofRun
  | .verify => (env.verify before).map StepResult.ofVerify

/-- A call that comes to `x` is answered so, unless a deadline cuts it short. -/
def Delivers {α : Type} (x : Except EnvError α) (answer : Answer α) : Prop :=
  answer = .error .cancelled ∨ answer = x.mapError .raised

section Delivers

variable {α : Type} {x : Except EnvError α}

theorem Delivers.ok {a : α} (h : Delivers x (.ok a)) : x = .ok a := by
  rcases h with h | h
  · cases h
  · cases x with
    | ok a' =>
      cases h
      rfl
    | error error => cases h

theorem Delivers.raised {error : EnvError} (h : Delivers x (.error (.raised error))) :
    x = .error error := by
  rcases h with h | h
  · cases h
  · cases x with
    | ok a => cases h
    | error error' =>
      cases h
      rfl

end Delivers

section Worlds

variable {A σ : Type} {env : HistoryEnv} {world : World A}

/-- The environment of a world. -/
structure RunsOn (env : HistoryEnv) (world : World A) : Prop where
  execute : ∀ trace action, Delivers (env.execute (calls trace) action) (world.execute trace action)
  verify : ∀ trace, Delivers (env.verify (calls trace)) (world.verify trace)

/-- A call that came back. -/
theorem RunsOn.reply (h : RunsOn env world) {trace : List (Event A)} {event : Event A}
    {action : EnvAction} {result : StepResult} (hanswered : event.AnsweredBy world trace)
    (hreply : event.reply? = some (action, some result)) :
    env.reply (calls trace) action = .ok result := by
  cases event with
  | execute action' answer =>
    cases answer with
    | error interrupt => cases hreply
    | ok raw =>
      cases hreply
      have hraw : Except.ok raw = world.execute trace action' := hanswered
      have hexecute := h.execute trace action'
      rw [← hraw] at hexecute
      rw [HistoryEnv.reply, hexecute.ok]
      rfl
  | verify answer =>
    cases answer with
    | error interrupt => cases hreply
    | ok outcome =>
      cases hreply
      have houtcome : Except.ok outcome = world.verify trace := hanswered
      have hverify := h.verify trace
      rw [← houtcome] at hverify
      rw [HistoryEnv.reply, hverify.ok]
      rfl
  | _ => cases hreply

/-- What an exception of the environment becomes. -/
def HistoryEnv.Raised (env : HistoryEnv) (before : List EnvAction) (action : EnvAction)
    (error : LoopError) : Prop :=
  ∃ raised, env.reply before action = .error raised ∧ error = raised.crossing

/-- Executing an action gives the environment's transition. -/
theorem RunsOn.execute_spec (h : RunsOn env world) (action : EnvAction) (s : Rollout A σ) :
    wp (executeEnvAction world action)
      (fun result s' ↦ env.reply (calls s.trace) action = .ok result ∧
        ∃ event, event.reply? = some (action, some result) ∧ s' = s.push event)
      (fun error s' ↦ (error = .cancelled ∨ env.Raised (calls s.trace) action error) ∧
        ∃ event, event.reply? = some (action, none) ∧ s' = s.push event) s := by
  cases action with
  | run action =>
    have hexecute := h.execute s.trace action
    rw [ReplayCache.wp_executeRun]
    refine ⟨fun raw hraw ↦ ⟨?_, _, rfl, rfl⟩, fun _ ↦ ⟨Or.inl rfl, _, rfl, rfl⟩,
      fun error herror ↦ ⟨Or.inr ⟨error, ?_, rfl⟩, _, rfl, rfl⟩⟩
    · rw [hraw] at hexecute
      rw [HistoryEnv.reply, hexecute.ok]
      rfl
    · rw [herror] at hexecute
      rw [HistoryEnv.reply, hexecute.raised]
      rfl
  | verify =>
    have hverify := h.verify s.trace
    rw [ReplayCache.wp_executeVerify]
    refine ⟨fun outcome houtcome ↦ ⟨?_, _, rfl, rfl⟩, fun _ ↦ ⟨Or.inl rfl, _, rfl, rfl⟩,
      fun error herror ↦ ⟨Or.inr ⟨error, ?_, rfl⟩, _, rfl, rfl⟩⟩
    · rw [houtcome] at hverify
      rw [HistoryEnv.reply, hverify.ok]
      rfl
    · rw [herror] at hverify
      rw [HistoryEnv.reply, hverify.raised]
      rfl

end Worlds

/-! ## Rows that tell the truth -/

section Truth

variable {A : Type} {env : HistoryEnv} {hexdigest : Hexdigest} {scope : ReplayScope}
  {trace trace' : List (Event A)}

/-- Every row that was read is the environment's answer. -/
def Truthful (env : HistoryEnv) (hexdigest : Hexdigest) (scope : ReplayScope)
    (trace : List (Event A)) : Prop :=
  ∀ before action text, .get (stepKey hexdigest scope (before ++ [action])) (.ok (some text)) ∈ trace →
    ∃ result, deserialize text = some result ∧ env.reply before action = .ok result

/-- A row that was read is not missed later. -/
def Stays (trace : List (Event A)) : Prop :=
  ∀ before after key text answer, trace = before ++ .get key answer :: after →
    .get key (.ok (some text)) ∈ before → ¬Missed answer

theorem Truthful.mono (h : Truthful env hexdigest scope trace') (hgrown : trace <+: trace') :
    Truthful env hexdigest scope trace :=
  fun before action text hmem ↦ h before action text (hgrown.subset hmem)

theorem Truthful.push {event : Event A} (h : Truthful env hexdigest scope trace)
    (hevent : event.isGet = false) : Truthful env hexdigest scope (trace ++ [event]) := by
  intro before action text hmem
  rcases List.mem_append.mp hmem with hmem | hmem
  · exact h before action text hmem
  · rw [← List.mem_singleton.mp hmem] at hevent
    cases hevent

/-- A truthful row of a submit is a verdict. -/
theorem Truthful.verdictsRead (h : Truthful env hexdigest scope trace) :
    VerdictsRead hexdigest scope trace := by
  intro before text result hmem hresult
  obtain ⟨result', hresult', hreply⟩ := h before .verify text hmem
  obtain rfl : result' = result := Option.some.inj (hresult'.symm.trans hresult)
  rw [HistoryEnv.reply] at hreply
  cases hverify : env.verify before with
  | error error =>
    rw [hverify] at hreply
    cases hreply
  | ok outcome =>
    rw [hverify] at hreply
    cases hreply
    rfl

/-- What was served is the environment's answer. -/
theorem Truthful.served (h : Truthful env hexdigest scope trace) {before : List EnvAction}
    {action : EnvAction} {result : StepResult}
    (hserved : ServedAt hexdigest scope trace (before ++ [action]) result) :
    env.reply before action = .ok result := by
  obtain ⟨text, hrow, hresult⟩ := hserved.row
  obtain ⟨result', hresult', hreply⟩ := h before action text hrow
  rwa [Option.some.inj (hresult'.symm.trans hresult)] at hreply

end Truth

/-! ## The steps of the cache -/

namespace ReplayCache

variable {A : Type} {u : Unicode} {hexdigest : Hexdigest} {scope : ReplayScope} {world : World A}
  {env : HistoryEnv} {s : Rollout A ReplayCache} {event : Event A}

/-- Why a step may break off that the environment would have answered: a deadline, a drift, or a row
that was lost. -/
def Halted (trace : List (Event A)) (error : LoopError) : Prop :=
  error = .cancelled ∨ (∃ actionIndex diagnostic, error = .executionDrift actionIndex diagnostic) ∨
    ¬Stays trace

/-- A step comes to what the environment answers after `before`, as long as the rows tell the
truth. -/
def Faithful (env : HistoryEnv) (hexdigest : Hexdigest) (scope : ReplayScope)
    (before : List EnvAction) (action : EnvAction) (step : LoopM A ReplayCache StepResult)
    (s : Rollout A ReplayCache) : Prop :=
  wp step
    (fun result s' ↦ Truthful env hexdigest scope s'.trace → env.reply before action = .ok result)
    (fun error s' ↦ Truthful env hexdigest scope s'.trace →
      Halted s'.trace error ∨ env.Raised before action error) s

/-- What a part of a step does from here on, as long as the rows tell the truth. -/
theorem wp_truthful {α : Type} {m : LoopM A ReplayCache α} {Q : α → Rollout A ReplayCache → Prop}
    {E : LoopError → Rollout A ReplayCache → Prop} (hextends : Preserves Extends m)
    (h : Truthful env hexdigest scope s.trace → wp m
      (fun a s' ↦ Truthful env hexdigest scope s'.trace → Q a s')
      (fun e s' ↦ Truthful env hexdigest scope s'.trace → E e s') s) :
    wp m (fun a s' ↦ Truthful env hexdigest scope s'.trace → Q a s')
      (fun e s' ↦ Truthful env hexdigest scope s'.trace → E e s') s := by
  by_cases hs : Truthful env hexdigest scope s.trace
  · exact h hs
  · have hbroken : ∀ s', Extends s s' → ¬Truthful env hexdigest scope s'.trace := by
      rintro s' ⟨events, htrace, -⟩ hs'
      exact hs (hs'.mono ⟨events, htrace.symm⟩)
    exact wp_mono (hextends s) (fun _ s' h hs' ↦ absurd hs' (hbroken s' h))
      fun _ s' h hs' ↦ absurd hs' (hbroken s' h)

section Materialize

/-- The row of a drift is read again. -/
theorem recordedResultForError_halts {replayed : ReplayedStep} {before : List EnvAction}
    {action : EnvAction} {text : String}
    (hkey : replayed.key = stepKey hexdigest scope (before ++ [action]))
    (hrow : .get replayed.key (.ok (some text)) ∈ s.trace) :
    wp (recordedResultForError u world replayed) (fun _ _ ↦ True)
      (fun error s' ↦ Truthful env hexdigest scope s'.trace → Halted s'.trace error) s := by
  have hlost : ∀ answer error, Missed answer →
      Halted (s.push (.get replayed.key answer)).trace error := by
    refine fun answer error hmissed ↦ Or.inr (Or.inr fun hstays ↦ ?_)
    exact hstays s.trace [] replayed.key text answer rfl hrow hmissed
  rw [recordedResultForError, wp_bind, wp_cacheGet]
  refine ⟨?_, fun _ _ ↦ Or.inl rfl, fun error _ _ ↦ hlost _ _ (Or.inr ⟨error, rfl⟩)⟩
  rintro (_ | text') _
  · exact fun _ ↦ hlost _ _ (Or.inl rfl)
  · rw [wp_bind, wp_readRow]
    refine ⟨fun _ _ ↦ trivial, fun hunread htruth ↦ ?_⟩
    obtain ⟨result, hresult, -⟩ := htruth before action text' (by simp [hkey])
    cases hunread.symm.trans hresult

/-- Executing served steps again comes to their results; only a drift or a deadline ends it. -/
theorem materializeFrom_halts (hruns : RunsOn env world) : ∀ (xs : List ServedStep)
    (before : List EnvAction) (actionIndex : ℕ) (s : Rollout A ReplayCache),
    Truthful env hexdigest scope s.trace → calls s.trace = before →
    ServedFrom hexdigest scope s.trace before xs →
    wp (materializeFrom u hexdigest scope world actionIndex
        (ServedStep.replayedFrom u hexdigest scope before xs))
      (fun _ _ ↦ True) (fun error s' ↦ Truthful env hexdigest scope s'.trace → Halted s'.trace error) s
  | [], _, _, _, _, _, _ => trivial
  | x :: xs, before, actionIndex, s, htruth, hcalls, hserved => by
    have hhead := htruth.served hserved.head
    rw [ServedStep.replayedFrom, materializeFrom, wp_bind]
    refine wp_mono (hruns.execute_spec (.run x.action) s) ?_ ?_
    · rintro result _ ⟨-, event, hreply, rfl⟩
      have hget : event.isGet = false := by
        cases event <;> first | rfl | cases hreply
      dsimp only
      rw [wp_ite]
      refine ⟨fun _ ↦ ?_, fun _ ↦ ?_⟩
      · -- a drift
        obtain ⟨text, hrow, -⟩ := hserved.head.row
        have hreread : ∀ answer, wp (recordedResultForError u world (x.replayed u hexdigest scope before))
            (fun _ _ ↦ True)
            (fun error s' ↦ Truthful env hexdigest scope s'.trace → Halted s'.trace error)
            ((s.push event).push (.put (blockedKey (stepKey hexdigest scope (before ++ [x.envAction])))
              blockedValue answer)) := fun answer ↦
          recordedResultForError_halts rfl (List.mem_append_left _ (List.mem_append_left _ hrow))
        rw [wp_bind, wp_cachePut]
        refine ⟨fun _ ↦ ?_, fun _ _ ↦ Or.inl rfl, fun _ _ ↦ ?_⟩
        · rw [wp_bind]
          refine wp_mono (hreread _) (fun recorded s' _ _ ↦ Or.inr (Or.inl ⟨_, _, rfl⟩)) fun _ _ h ↦ h
        · rw [wp_bind]
          refine wp_mono (hreread _) (fun recorded s' _ _ ↦ Or.inr (Or.inl ⟨_, _, rfl⟩)) fun _ _ h ↦ h
      · refine materializeFrom_halts hruns xs (before ++ [x.envAction]) (actionIndex + 1) (s.push event)
          (htruth.push hget) ?_ (hserved.tail ⟨_, rfl⟩)
        rw [Rollout.push_trace, calls_append, hcalls, calls,
          List.filterMap_cons_some (by rw [Event.environmentCall?_eq, hreply]; rfl)]
        rfl
    · rintro error _ ⟨hcut | ⟨raised, hraised, -⟩, -⟩
      · exact fun _ ↦ Or.inl hcut
      · rw [hcalls] at hraised
        cases hraised.symm.trans hhead

theorem goLive_halts {xs : List ServedStep} {action : EnvAction} (hruns : RunsOn env world)
    (h : Waiting u hexdigest scope xs action s) :
    wp (goLive u hexdigest scope world) (fun _ _ ↦ True)
      (fun error s' ↦ Truthful env hexdigest scope s'.trace → Halted s'.trace error) s := by
  refine wp_mono (wp_truthful (Q := fun _ _ ↦ True) (E := fun error s' ↦ Halted s'.trace error)
    preserves_goLive fun htruth ↦ ?_) (fun _ _ _ ↦ trivial) fun _ _ h ↦ h
  rw [goLive, wp_bind, wp_get, if_neg (by simp [h.live]), wp_bind, wp_update, materialize, wp_bind,
    wp_get, wp_bind]
  dsimp only
  rw [h.replayed]
  exact wp_mono (materializeFrom_halts hruns xs [] 1 _ htruth h.unexecuted h.served)
    (fun _ _ _ _ ↦ trivial) fun _ _ h ↦ h

end Materialize

/-- A row that is read can be served. -/
theorem serveReplay_halts {before : List EnvAction} {action : EnvAction}
    (hlive : s.executor.live = false) :
    wp (serveReplay world (stepKey hexdigest scope (before ++ [action]))) (fun _ _ ↦ True)
      (fun error s' ↦ Truthful env hexdigest scope s'.trace → Halted s'.trace error) s := by
  refine wp_serveReplay hlive (fun _ _ ↦ trivial) (fun _ ↦ Or.inl rfl) fun marker _ _ answer _ ↦
    ⟨fun text htext ↦ ⟨fun _ _ ↦ trivial, fun hunread htruth ↦ ?_⟩, fun _ _ ↦ Or.inl rfl,
      fun _ ↦ trivial⟩
  obtain ⟨result, hresult, -⟩ := htruth before action text (by simp [htext])
  cases hunread.symm.trans hresult

/-- A step is served with the environment's answer, or the environment has executed the chain. -/
theorem reach_faithful {action : EnvAction} {s' : Rollout A ReplayCache} {key : String}
    (hruns : RunsOn env world) (h : Between u hexdigest scope s)
    (hevent : event.requested? = some action) (htrace : s'.trace = s.trace ++ [event])
    (hchain : s'.actionChain = s.actionChain)
    (hdigest : s'.executor.digest = advanceDigest hexdigest s.executor.digest action)
    (hreplayed : s'.executor.replayed = s.executor.replayed)
    (hlive : s'.executor.live = s.executor.live)
    (hrecordable : s'.executor.recordableChain = s.executor.recordableChain)
    (hkey : key = keyOf (advanceDigest hexdigest s.executor.digest action)) :
    wp (serveReplay world key)
      (fun served s₁ ↦ match served with
        | none => wp (goLive u hexdigest scope world)
            (fun _ s₂ ↦ calls s₂.trace = s.actionChain.map ChainStep.envAction ∧
              s₂.executor.verifyKey = s'.executor.verifyKey ∧ s₂.executor.live = true)
            (fun error s₂ ↦ Truthful env hexdigest scope s₂.trace → Halted s₂.trace error) s₁
        | some result => Truthful env hexdigest scope s₁.trace →
            env.reply (s.actionChain.map ChainStep.envAction) action = .ok result)
      (fun error s₁ ↦ Truthful env hexdigest scope s₁.trace → Halted s₁.trace error) s' := by
  rcases h with ⟨xs, hcold⟩ | hhot
  · have hactions : s.actionChain.map ChainStep.envAction = xs.map ServedStep.envAction := by
      rw [hcold.chain, ServedStep.map_envAction_step]
    have hkey' : key = stepKey hexdigest scope (xs.map ServedStep.envAction ++ [action]) := by
      rw [hkey, stepKey, chainDigest_snoc, hcold.digest]
    have hasks : Asks hexdigest event [] action s s' :=
      ⟨hevent, by simp, htrace, hchain, hdigest, hreplayed, hlive⟩
    have hhalts : wp (serveReplay world key) (fun _ _ ↦ True)
        (fun error s' ↦ Truthful env hexdigest scope s'.trace → Halted s'.trace error) s' :=
      hkey' ▸ serveReplay_halts (hlive.trans hcold.live)
    refine wp_mono (wp_and (serve_spec hcold hasks hkey') hhalts) ?_ fun _ _ h ↦ h.2
    rintro (_ | result) s₁ ⟨⟨hverifyKey, hserve⟩, -⟩
    · obtain ⟨hwaiting, hchain₁⟩ := hserve
      refine wp_mono (wp_and (goLive_spec hwaiting) (goLive_halts hruns hwaiting)) ?_ fun _ _ h ↦ h.2
      rintro ⟨⟩ s₂ ⟨⟨hready, hchain₂, hverifyKey₂⟩, -⟩
      exact ⟨by rw [hready.calls_eq, hchain₂, hchain₁], hverifyKey₂.trans hverifyKey, hready.live⟩
    · obtain ⟨-, -, -, hserved⟩ := hserve
      rw [hactions]
      exact fun htruth ↦ htruth.served hserved
  · have hready := hhot.ready s' hevent htrace hchain hdigest hlive hrecordable
    refine (wp_serveReplay_live hready.live).mpr ((goLive_live hready.live).mpr ?_)
    exact ⟨by rw [hready.calls_eq, hchain], rfl, hready.live⟩

theorem recordRun_cancelled {key : String} {action : RunAction} {result : StepResult}
    {elapsedSec : ℚ} : wp (recordRun u world key action result elapsedSec) (fun _ _ ↦ True)
      (fun error _ ↦ error = .cancelled) s := by
  rw [recordRun, wp_bind, wp_get]
  split
  · trivial
  split
  · trivial
  · exact wp_cachePut.mpr ⟨fun _ ↦ trivial, fun _ ↦ rfl, fun _ _ ↦ trivial⟩

/-- The result of a run action is the environment's. -/
theorem stepRun_faithful {action : RunAction} (hruns : RunsOn env world)
    (h : Between u hexdigest scope s) (hevent : event.requested? = some (.run action)) :
    Faithful env hexdigest scope (s.actionChain.map ChainStep.envAction) (.run action)
      (stepRun u hexdigest scope world action) (s.push event) := by
  rw [Faithful, stepRun, wp_bind, wp_advance, wp_bind]
  refine wp_mono (reach_faithful hruns h hevent rfl rfl rfl rfl rfl rfl rfl) ?_
    fun _ _ h htruth ↦ Or.inl (h htruth)
  rintro (_ | result) s₁ hserve
  · rw [wp_bind]
    refine wp_mono hserve ?_ fun _ _ h htruth ↦ Or.inl (h htruth)
    rintro ⟨⟩ s₂ ⟨hcalls, -, -⟩
    rw [wp_bind]
    refine wp_mono (hruns.execute_spec (.run action) s₂) ?_ ?_
    · rintro result s₃ ⟨hreply, -⟩
      rw [wp_bind, wp_perform, wp_bind]
      refine wp_mono recordRun_cancelled (fun _ _ _ _ ↦ hcalls ▸ hreply) ?_
      exact fun _ _ hcut _ ↦ Or.inl (Or.inl hcut)
    · rintro error s₃ ⟨hcut | hraised, -⟩ -
      · exact Or.inl (Or.inl hcut)
      · exact Or.inr (hcalls ▸ hraised)
  · rw [wp_bind, wp_update, wp_pure]
    exact hserve

/-- So is that of a submit; the artifacts of a served verdict are written first. -/
theorem submit_faithful (hruns : RunsOn env world) (h : Between u hexdigest scope s)
    (hevent : event.requested? = some .verify) :
    wp (prepareSubmit u hexdigest scope world)
      (fun served s' ↦ Faithful env hexdigest scope (s.actionChain.map ChainStep.envAction) .verify
        (served.elim (stepVerify world) pure) s')
      (fun error s' ↦ Truthful env hexdigest scope s'.trace → Halted s'.trace error ∨
        ∃ result raised, .writeVerifyArtifacts result (.error (.raised raised)) ∈ s'.trace)
      (s.push event) := by
  rw [prepareSubmit, wp_bind, wp_advance, wp_bind, wp_update, wp_bind]
  refine wp_mono (reach_faithful hruns h hevent rfl rfl rfl rfl rfl rfl rfl) ?_
    fun _ _ h htruth ↦ Or.inl (h htruth)
  rintro (_ | result) s₁ hserve
  · rw [wp_bind]
    refine wp_mono hserve ?_ fun _ _ h htruth ↦ Or.inl (h htruth)
    rintro ⟨⟩ s₂ ⟨hcalls, hverifyKey, hlive⟩
    rw [wp_pure, Faithful, Option.elim_none, stepVerify, wp_bind, wp_get]
    dsimp only
    rw [hverifyKey]
    dsimp only
    rw [wp_ite]
    refine ⟨fun hcold ↦ absurd hcold (by simp [hlive]), fun _ ↦ ?_⟩
    rw [wp_bind]
    refine wp_mono (hruns.execute_spec .verify s₂) ?_ ?_
    · rintro result s₃ ⟨hreply, -⟩
      rw [wp_bind, wp_get]
      split
      · rw [wp_bind, wp_cachePut]
        exact ⟨fun _ _ ↦ hcalls ▸ hreply, fun _ _ ↦ Or.inl (Or.inl rfl),
          fun _ _ _ ↦ hcalls ▸ hreply⟩
      · exact fun _ ↦ hcalls ▸ hreply
    · rintro error s₃ ⟨hcut | hraised, -⟩ -
      · exact Or.inl (Or.inl hcut)
      · exact Or.inr (hcalls ▸ hraised)
  · -- the step has the result that was served
    have hgrown : ∀ s₂ : Rollout A ReplayCache, s₁.trace <+: s₂.trace →
        Faithful env hexdigest scope (s.actionChain.map ChainStep.envAction) .verify (pure result) s₂ :=
      fun s₂ hgrown htruth ↦ hserve (htruth.mono hgrown)
    dsimp only
    rw [wp_ite, wp_bind, wp_perform, wp_bind]
    refine ⟨fun _ ↦ ?_, fun _ ↦ hgrown s₁ (List.prefix_refl _)⟩
    rw [Answer.wp_orRaise]
    exact ⟨fun _ _ ↦ hgrown _ ⟨_, rfl⟩, fun _ _ ↦ Or.inl (Or.inl rfl),
      fun raised hraised _ ↦ Or.inr ⟨result, raised, List.mem_append_right _
        (List.mem_singleton.mpr (by rw [hraised]))⟩⟩

end ReplayCache

/-! ## Attested chains -/

/-- A transition of the chain is the environment's after the steps before it, unless a deadline cut
it short. -/
def Attested (env : HistoryEnv) (u : Unicode) (chain : List ChainStep) : Prop :=
  ∀ before step after, chain = before ++ step :: after → step.timedOut = false →
    ∃ result, env.reply (before.map ChainStep.envAction) step.envAction = .ok result ∧
      step.stepResult = u.scrubStepResult step.envAction.command? result

section Attested

variable {env : HistoryEnv} {u : Unicode} {chain : List ChainStep}

theorem Attested.nil : Attested env u [] := by
  intro before step after h
  simp at h

theorem Attested.snoc {step : ChainStep} (h : Attested env u chain)
    (hstep : step.timedOut = false → ∃ result,
      env.reply (chain.map ChainStep.envAction) step.envAction = .ok result ∧
        step.stepResult = u.scrubStepResult step.envAction.command? result) :
    Attested env u (chain ++ [step]) := by
  intro before step' after hchain
  rcases Transitions.split_snoc hchain with ⟨rfl, rfl⟩ | ⟨rest, hbefore⟩
  · exact hstep
  · exact h before step' rest hbefore

/-- A step that came to the environment's answer. -/
theorem Attested.returned {action : EnvAction} {result : StepResult} (h : Attested env u chain)
    (hreply : env.reply (chain.map ChainStep.envAction) action = .ok result) :
    Attested env u (chain ++ [⟨action, u.scrubStepResult action.command? result, false⟩]) :=
  h.snoc fun _ ↦ ⟨result, hreply, rfl⟩

theorem Attested.cut {action : EnvAction} {result : StepResult} (h : Attested env u chain) :
    Attested env u (chain ++ [⟨action, result, true⟩]) :=
  h.snoc (by rintro ⟨⟩)

end Attested

section Live

variable {A : Type} {u : Unicode} {env : HistoryEnv} {world : World A}

/-- The environment has executed the chain, and every transition on it is its own. -/
def LiveChain (env : HistoryEnv) (u : Unicode) (s : Rollout A Unit) : Prop :=
  calls s.trace = s.actionChain.map ChainStep.envAction ∧ Attested env u s.actionChain

/-- A step that the environment executed and that is put on the chain. -/
theorem calls_executed {σ : Type} {s : Rollout A σ} {event : Event A} {step : ChainStep}
    {reply : Option StepResult} (h : calls s.trace = s.actionChain.map ChainStep.envAction)
    (hevent : event.reply? = some (step.envAction, reply)) :
    calls ((s.push event).record step).trace =
      ((s.push event).record step).actionChain.map ChainStep.envAction := by
  rw [Rollout.record_trace, Rollout.push_trace, calls_append, h, Rollout.record_actionChain,
    List.map_append, calls, List.filterMap_cons_some (by rw [Event.environmentCall?_eq, hevent]; rfl)]
  rfl

theorem keepsStep_live (hruns : RunsOn env world) {s : Rollout A Unit} (action : EnvAction)
    (h : LiveChain env u s) :
    KeepsStep u (LiveChain env u) (fun s ↦ Attested env u s.actionChain)
      (fun s ↦ Attested env u s.actionChain) action (executeEnvAction world action) s := by
  refine wp_mono (hruns.execute_spec action s) ?_ ?_
  · rintro result _ ⟨hreply, event, hevent, rfl⟩
    rw [h.1] at hreply
    have hattested : Attested env u ((s.push event).record
        ⟨action, u.scrubStepResult action.command? result, false⟩).actionChain := h.2.returned hreply
    exact ⟨hattested, fun _ ↦ ⟨calls_executed h.1 hevent, hattested⟩⟩
  · rintro error _ ⟨-, event, -, rfl⟩
    exact ⟨h.2, fun _ ↦ h.2.cut⟩

/-- The live executor keeps its chain attested. -/
theorem keeps_live (hruns : RunsOn env world) : Keeps u (liveStepExecutor world) (LiveChain env u)
    (fun s ↦ Attested env u s.actionChain) fun s ↦ Attested env u s.actionChain where
  settle _ h := h.2
  weaken _ h := h
  push_between _ _ hloop _ h := ⟨(calls_push hloop).trans h.1, h.2⟩
  push_settled _ _ _ _ h := h
  push_always _ _ _ _ h := h
  provision s h := by
    have hcalls : ∀ answer, calls (s.push (.provision answer)).trace = calls s.trace := fun answer ↦
      (calls_append _ _).trans (List.append_nil _)
    rw [liveStepExecutor, wp_bind, wp_perform, Answer.wp_orRaise]
    exact ⟨fun _ _ ↦ ⟨(hcalls _).trans h.1, h.2⟩, fun _ ↦ h.2, fun _ _ ↦ h.2⟩
  stepRun action s event hevent h :=
    keepsStep_live hruns (.run action)
      ⟨(calls_push (ofExecutor_of_requested hevent)).trans h.1, h.2⟩
  submit s event hevent h :=
    keepsStep_live hruns .verify
      ⟨(calls_push (ofExecutor_of_requested hevent)).trans h.1, h.2⟩

/-- A live rollout leaves an attested chain, however it ends. -/
theorem attested_live (hruns : RunsOn env world) (u : Unicode) (maxSteps : ℕ) (stallTimeoutSec : ℚ) :
    Attested env u (exec (runTaskLoop u world (liveStepExecutor world) maxSteps stallTimeoutSec)
      { executor := () }).2.actionChain :=
  wp_left (wp_mono (runTaskLoop_invariant (keeps_live hruns) maxSteps stallTimeoutSec
    (s := { executor := () }) ⟨rfl, .nil⟩) (fun _ _ h ↦ h.1) fun _ _ h ↦ h)

end Live

/-! ## Served from recordings -/

section AnsweredThroughout

variable {A : Type} {u : Unicode} {hexdigest : Hexdigest} {scope : ReplayScope} {world : World A}

/-- The environment's answers in a trace are those of a world. -/
def AnsweredThroughout (world : World A) (trace : List (Event A)) : Prop :=
  ∀ before event after, trace = before ++ event :: after → event.AnsweredBy world before

theorem AnsweredThroughout.push {trace : List (Event A)} {event : Event A} (h : AnsweredThroughout world trace)
    (hevent : event.AnsweredBy world trace) : AnsweredThroughout world (trace ++ [event]) := by
  intro before event' after htrace
  rcases Transitions.split_snoc htrace with ⟨rfl, rfl⟩ | ⟨rest, hbefore⟩
  · exact hevent
  · exact h before event' rest hbefore

theorem Event.answeredBy_of_loop {trace : List (Event A)} {event : Event A}
    (h : event.ofExecutor = false) : event.AnsweredBy world trace := by
  cases event with
  | execute action answer => cases h
  | verify answer => cases h
  | _ => trivial

theorem keeps_answered : Keeps u (ReplayCache.executor u hexdigest scope world)
    (fun s ↦ AnsweredThroughout world s.trace) (fun s ↦ AnsweredThroughout world s.trace)
    fun s ↦ AnsweredThroughout world s.trace := by
  refine ReplayCache.Allows.keeps ⟨fun _ h ↦ h, fun _ _ _ h h' hs ↦ h' (h hs), fun _ _ ↦ id, ?_⟩ ?_
    fun _ _ h ↦ h
  · exact fun event s _ hevent hs ↦ hs.push hevent
  · exact fun s event hloop hs ↦ hs.push (Event.answeredBy_of_loop hloop)

theorem ReplayedRollout.answered (rollout : ReplayedRollout A) :
    AnsweredThroughout rollout.world (rollout.trace u hexdigest) := by
  refine wp_left (wp_mono (runTaskLoop_invariant keeps_answered _ _ ?_) (fun _ _ h ↦ h.1) fun _ _ h ↦ h)
  intro before event after h
  simp at h

end AnsweredThroughout

section Shared

variable {ι A : Type} [DecidableEq ι] {u : Unicode} {hexdigest : Hexdigest} {env : HistoryEnv}
  {rollouts : ι → ReplayedRollout A} {history : List (Occurrence ι (Event A))}

/-- What was executed live is the environment's answer. -/
theorem LivedAt.reply {world : World A} {trace : List (Event A)} {actions : List EnvAction}
    {action : EnvAction} {result : StepResult} (h : LivedAt u trace actions action result)
    (hruns : RunsOn env world) (hanswered : AnsweredThroughout world trace) :
    env.reply actions action = .ok result := by
  cases h with
  | run before after action raw elapsedSec htrace hcalls hrecordable =>
    rw [← hcalls]
    exact hruns.reply (hanswered before _ _ htrace) rfl
  | verify before after outcome htrace hcalls =>
    rw [← hcalls]
    exact hruns.reply (hanswered before _ _ htrace) rfl

/-- **Recordings tell the truth.**  If the rollouts of a scope run on one environment, then every row
that one of them reads is what that environment answers. -/
theorem Shared.truthful (h : Shared u hexdigest rollouts history) (i : ι)
    (hruns : ∀ j, (rollouts j).scope = (rollouts i).scope → RunsOn env (rollouts j).world) :
    Truthful env hexdigest (rollouts i).scope (projection i history) := by
  intro before action text hmem
  obtain ⟨first, later, hhistory⟩ := List.append_of_mem (mem_projection.mp hmem)
  obtain ⟨j, event, earlier, rest, hearlier, hshorter, acknowledged, hput⟩ :=
    h.store.origin hhistory rfl
  obtain ⟨answer, rfl⟩ := exists_put hput
  obtain ⟨hscope, before', action', result, hactions, rfl, hrecorded⟩ := (h.lawful hearlier).recorded
  obtain ⟨rfl, hlast⟩ := List.append_inj' hactions rfl
  obtain rfl : action = action' := by simpa using hlast
  refine ⟨result, deserialize_serialize result, hrecorded.lived.reply (hruns j hscope.symm) ?_⟩
  -- what the recorder saw is a part of its run
  intro first' event' after' htrace
  obtain ⟨more, hmore⟩ : projection j earlier <+: (rollouts j).trace u hexdigest := by
    have hproject := h.runs j
    rw [hearlier, projection_append] at hproject
    exact (List.prefix_append _ _).trans hproject
  have hanswered : AnsweredThroughout (rollouts j).world ((rollouts j).trace u hexdigest) :=
    (rollouts j).answered
  refine hanswered first' event' (after' ++ more) ?_
  rw [← hmore, htrace, List.append_assoc, List.cons_append]

end Shared

section Replayed

variable {A : Type} {u : Unicode} {hexdigest : Hexdigest} {scope : ReplayScope} {world : World A}
  {env : HistoryEnv}

/-- The chain of a replayed episode is attested, as long as the rows tell the truth. -/
def TruthfulChain (env : HistoryEnv) (u : Unicode) (hexdigest : Hexdigest) (scope : ReplayScope)
    (s : Rollout A ReplayCache) : Prop :=
  Truthful env hexdigest scope s.trace → Attested env u s.actionChain

theorem TruthfulChain.push {s : Rollout A ReplayCache} (h : TruthfulChain env u hexdigest scope s)
    (event : Event A) : TruthfulChain env u hexdigest scope (s.push event) :=
  fun htruth ↦ h (htruth.mono ⟨_, rfl⟩)

theorem TruthfulChain.extends {s s' : Rollout A ReplayCache} (h : TruthfulChain env u hexdigest scope s)
    (hextends : ReplayCache.Extends s s') : TruthfulChain env u hexdigest scope s' := by
  obtain ⟨events, htrace, hchain, -⟩ := hextends
  intro htruth
  rw [hchain]
  exact h (htruth.mono ⟨events, htrace.symm⟩)

/-- A faithful step keeps the chain attested. -/
theorem keepsStep_truthful {between settled always : Rollout A ReplayCache → Prop} {action : EnvAction}
    {step : LoopM A ReplayCache StepResult} {s : Rollout A ReplayCache}
    (hkeeps : KeepsStep u between settled always action step s)
    (hextends : Preserves ReplayCache.Extends step)
    (hfaithful : ReplayCache.Faithful env hexdigest scope (s.actionChain.map ChainStep.envAction) action
      step s) (h : TruthfulChain env u hexdigest scope s) :
    KeepsStep u (fun s ↦ between s ∧ TruthfulChain env u hexdigest scope s)
      (fun s ↦ settled s ∧ TruthfulChain env u hexdigest scope s)
      (fun s ↦ always s ∧ TruthfulChain env u hexdigest scope s) action step s := by
  refine wp_mono (wp_and (wp_and hkeeps hfaithful) (hextends s)) ?_ ?_
  · rintro result s' ⟨⟨⟨hsettled, hbetween⟩, hreply⟩, hs'⟩
    have hchain : TruthfulChain env u hexdigest scope
        (s'.record ⟨action, u.scrubStepResult action.command? result, false⟩) := by
      intro htruth
      have hattested : Attested env u s'.actionChain := h.extends hs' htruth
      refine hattested.returned ?_
      obtain ⟨events, -, hactions, -⟩ := hs'
      rw [hactions]
      exact hreply htruth
    exact ⟨⟨hsettled, hchain⟩, fun hrunning ↦ ⟨hbetween hrunning, hchain⟩⟩
  · rintro error s' ⟨⟨⟨halways, hsettled⟩, -⟩, hs'⟩
    refine ⟨⟨halways, h.extends hs'⟩, fun hcancelled ↦ ⟨hsettled hcancelled, fun htruth ↦ ?_⟩⟩
    exact (h.extends hs' htruth).cut

namespace ReplayCache

/-- The step cache keeps its chain attested, as long as the rows tell the truth. -/
theorem keeps_replayed (hruns : RunsOn env world) : Keeps u (executor u hexdigest scope world)
    (fun s ↦ Assuming u hexdigest scope (Between u hexdigest scope) s ∧
      TruthfulChain env u hexdigest scope s)
    (fun s ↦ Assuming u hexdigest scope (Settled u hexdigest scope) s ∧
      TruthfulChain env u hexdigest scope s)
    (fun s ↦ Assuming u hexdigest scope (Always u hexdigest scope) s ∧
      TruthfulChain env u hexdigest scope s) := by
  have hbetween : ∀ {s : Rollout A ReplayCache} {event : Event A},
      Assuming u hexdigest scope (Between u hexdigest scope) s →
      Truthful env hexdigest scope (s.push event).trace → Between u hexdigest scope s :=
    fun h htruth ↦ h.2 (Truthful.verdictsRead (htruth.mono ⟨_, rfl⟩))
  have hkeeps : Keeps u (executor u hexdigest scope world)
      (Assuming u hexdigest scope (Between u hexdigest scope))
      (Assuming u hexdigest scope (Settled u hexdigest scope))
      (Assuming u hexdigest scope (Always u hexdigest scope)) := keeps
  constructor
  case settle => exact fun s h ↦ ⟨hkeeps.settle s h.1, h.2⟩
  case weaken => exact fun s h ↦ ⟨hkeeps.weaken s h.1, h.2⟩
  case push_between =>
    exact fun s event hloop hrequest h ↦
      ⟨hkeeps.push_between s event hloop hrequest h.1, h.2.push event⟩
  case push_settled =>
    exact fun s event hloop hrequest h ↦
      ⟨hkeeps.push_settled s event hloop hrequest h.1, h.2.push event⟩
  case push_always =>
    exact fun s event hloop hrequest h ↦ ⟨hkeeps.push_always s event hloop hrequest h.1, h.2.push event⟩
  case provision => exact fun s h ↦ h
  case stepRun =>
    intro action s event hevent h
    refine keepsStep_truthful (hkeeps.stepRun action s event hevent h.1) (preserves_stepRun action) ?_
      (h.2.push event)
    exact wp_truthful (preserves_stepRun action) fun htruth ↦
      stepRun_faithful hruns (hbetween h.1 htruth) hevent
  case submit =>
    intro s event hevent h
    have hfaithful : wp (prepareSubmit u hexdigest scope world)
        (fun served s' ↦ Truthful env hexdigest scope s'.trace →
          Faithful env hexdigest scope (s.actionChain.map ChainStep.envAction) .verify
            (served.elim (stepVerify world) pure) s') (fun _ _ ↦ True) (s.push event) := by
      refine wp_mono (wp_truthful (E := fun _ _ ↦ True) preserves_prepareSubmit fun htruth ↦
        wp_mono (submit_faithful hruns (hbetween h.1 htruth) hevent) (fun _ _ h _ ↦ h)
          fun _ _ _ _ ↦ trivial) (fun _ _ h ↦ h) fun _ _ _ ↦ trivial
    refine wp_mono (wp_and (wp_and (hkeeps.submit s event hevent h.1) hfaithful)
      (preserves_prepareSubmit (s.push event))) ?_ ?_
    · rintro served s' ⟨⟨hstep, hserved⟩, hs'⟩
      have hextends : Preserves Extends (served.elim (stepVerify world) pure) := by
        cases served with
        | none => exact Extends.allows.accesses.stepVerify
        | some result => exact .pure .refl result
      refine keepsStep_truthful hstep hextends (wp_truthful hextends fun htruth ↦ ?_)
        ((h.2.push event).extends hs')
      obtain ⟨-, -, hchain, -⟩ := hs'
      rw [hchain]
      exact hserved htruth
    · rintro error s' ⟨⟨halways, -⟩, hs'⟩
      exact ⟨halways, (h.2.push event).extends hs'⟩

end ReplayCache

/-- The action chain of a rollout under the step cache when it ends. -/
def ReplayedRollout.actionChain (u : Unicode) (hexdigest : Hexdigest) (rollout : ReplayedRollout A) :
    List ChainStep :=
  (exec (runTaskLoop u rollout.world
    (ReplayCache.executor u hexdigest rollout.scope rollout.world) rollout.maxSteps
    rollout.stallTimeoutSec) { executor := .new hexdigest rollout.scope }).2.actionChain

/-- A rollout under the step cache leaves an attested chain, however it ends, if the rows it read tell
the truth. -/
theorem ReplayedRollout.attested (rollout : ReplayedRollout A) (hruns : RunsOn env rollout.world)
    (htruth : Truthful env hexdigest rollout.scope (rollout.trace u hexdigest)) :
    Attested env u (rollout.actionChain u hexdigest) := by
  have hfresh := ReplayCache.assuming_fresh (A := A) u hexdigest rollout.scope
  have hchain : TruthfulChain env u hexdigest rollout.scope (exec (runTaskLoop u rollout.world
      (ReplayCache.executor u hexdigest rollout.scope rollout.world) rollout.maxSteps
      rollout.stallTimeoutSec) { executor := .new hexdigest rollout.scope }).2 :=
    wp_left (wp_mono (runTaskLoop_invariant (ReplayCache.keeps_replayed hruns) rollout.maxSteps
      rollout.stallTimeoutSec ⟨hfresh, fun _ ↦ Attested.nil⟩) (fun _ _ h ↦ h.1.2) fun _ _ h ↦ h.2)
  exact hchain htruth

end Replayed

end HarnessTraining
