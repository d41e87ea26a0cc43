import HarnessTraining.Replay.Invariant

/-!
# The step cache keeps its invariant

What each operation of the step cache does to a cold and to a hot episode, and from it that the cache
keeps the invariants of a replayed episode.

* `goLive_spec` — going live executes exactly the served steps.
* `serve_spec`, `runLive_spec`, `verifyLive_spec` — a step is served, or it is executed live.
* `keeps` — the invariants are kept, as long as the rows read for submits are verdicts.
-/

set_option autoImplicit false

namespace HarnessTraining

open StateExcept

namespace ReplayCache

variable {A : Type} {u : Unicode} {hexdigest : Hexdigest} {scope : ReplayScope} {world : World A}

/-- What serving a step may come to, while nothing is executed. -/
theorem wp_serveReplay {key : String} {s : Rollout A ReplayCache}
    {Q : Option StepResult → Rollout A ReplayCache → Prop}
    {E : LoopError → Rollout A ReplayCache → Prop} (hlive : s.executor.live = false)
    (hmarked : ∀ value, world.get s.trace (blockedKey key) = .ok (some value) →
      Q none { s.push (.get (blockedKey key) (.ok (some value))) with
        executor := { s.executor with recordableChain := false } })
    (hcut : E .cancelled (s.push (.get (blockedKey key) (.error .cancelled))))
    (hrow : ∀ marker, world.get s.trace (blockedKey key) = marker → Missed marker →
      ∀ answer, world.get (s.trace ++ [.get (blockedKey key) marker]) key = answer →
      let s' := (s.push (.get (blockedKey key) marker)).push (.get key answer)
      (∀ text, answer = .ok (some text) → (∀ result, deserialize text = some result →
          Q (some result) s') ∧ (deserialize text = none →
            E (.foreign "the row is not a step result") s')) ∧
        (answer = .error .cancelled → E .cancelled s') ∧
        (Missed answer → Q none s')) :
    wp (serveReplay world key) Q E s := by
  have hmiss : ∀ marker, world.get s.trace (blockedKey key) = marker → Missed marker →
      wp (serveRow world key) Q E (s.push (.get (blockedKey key) marker)) := by
    intro marker hmarker hmissed
    obtain ⟨htext, hcancelled, hnone⟩ := hrow marker hmarker hmissed _ rfl
    rw [serveRow, wp_bind, wp_cacheGet, Rollout.push_trace]
    generalize world.get (s.trace ++ [.get (blockedKey key) marker]) key = answer at *
    refine ⟨?_, ?_, ?_⟩
    · rintro (_ | text) rfl
      · exact hnone (Or.inl rfl)
      · rw [wp_bind, wp_readRow]
        exact htext text rfl
    · rintro rfl
      exact hcancelled rfl
    · rintro error rfl
      exact hnone (Or.inr ⟨error, rfl⟩)
  rw [serveReplay, wp_bind, wp_get, if_neg (by simp [hlive]), wp_bind, wp_cacheGet]
  refine ⟨?_, fun _ ↦ hcut, fun error herror ↦ hmiss _ herror (Or.inr ⟨error, rfl⟩)⟩
  rintro (_ | value) hmarker
  · exact hmiss _ hmarker (Or.inl rfl)
  · exact hmarked value hmarker

theorem wp_serveReplay_live {key : String} {s : Rollout A ReplayCache}
    {Q : Option StepResult → Rollout A ReplayCache → Prop}
    {E : LoopError → Rollout A ReplayCache → Prop} (hlive : s.executor.live = true) :
    wp (serveReplay world key) Q E s ↔ Q none s := by
  rw [serveReplay, wp_bind, wp_get, if_pos hlive, wp_pure]

/-- Only the store was accessed. -/
def OnlyStore (u : Unicode) (hexdigest : Hexdigest) (scope : ReplayScope)
    (s s' : Rollout A ReplayCache) : Prop :=
  ∃ events, s'.trace = s.trace ++ events ∧ s'.actionChain = s.actionChain ∧
    Lawful u hexdigest scope s'.trace ∧ ∀ event ∈ events, event.isStore = true

theorem OnlyStore.push {s : Rollout A ReplayCache} {event : Event A}
    (hlawful : Lawful u hexdigest scope s.trace) (hevent : EventOk u hexdigest scope s.trace event)
    (hstore : event.isStore = true) : OnlyStore u hexdigest scope s (s.push event) :=
  ⟨[event], rfl, rfl, hlawful.push hevent, by simpa using hstore⟩

theorem OnlyStore.trans {s s' s'' : Rollout A ReplayCache} (h : OnlyStore u hexdigest scope s s')
    (h' : OnlyStore u hexdigest scope s' s'') : OnlyStore u hexdigest scope s s'' := by
  obtain ⟨events, htrace, hchain, -, hevents⟩ := h
  obtain ⟨events', htrace', hchain', hlawful, hevents'⟩ := h'
  refine ⟨events ++ events', by rw [htrace', htrace, List.append_assoc], hchain'.trans hchain,
    hlawful, fun event hevent ↦ ?_⟩
  exact (List.mem_append.mp hevent).elim (hevents event) (hevents' event)

section Materialize

variable {x : ServedStep} {before : List EnvAction} {s : Rollout A ReplayCache}

theorem mark_spec (hlawful : Lawful u hexdigest scope s.trace)
    (hserved : ServedAt hexdigest scope s.trace (before ++ [x.envAction]) x.result) :
    wp (cachePut world (blockedKey (stepKey hexdigest scope (before ++ [x.envAction]))) blockedValue)
      (fun _ s' ↦ OnlyStore u hexdigest scope s s') (fun _ s' ↦ OnlyStore u hexdigest scope s s')
      s := by
  have hmark : ∀ answer, OnlyStore u hexdigest scope s (s.push
      (.put (blockedKey (stepKey hexdigest scope (before ++ [x.envAction]))) blockedValue answer)) :=
    fun answer ↦ .push hlawful (.mark _ x.result answer hserved) rfl
  rw [wp_cachePut]
  exact ⟨fun _ ↦ hmark _, fun _ ↦ hmark _, fun _ _ ↦ hmark _⟩

theorem recordedResultForError_spec (hlawful : Lawful u hexdigest scope s.trace)
    (hserved : ServedAt hexdigest scope s.trace (before ++ [x.envAction]) x.result)
    (hlength : (before ++ [x.envAction]).length < (requests s.trace).length) :
    wp (recordedResultForError u world (x.replayed u hexdigest scope before))
      (fun _ s' ↦ OnlyStore u hexdigest scope s s') (fun _ s' ↦ OnlyStore u hexdigest scope s s')
      s := by
  have hread : ∀ row, OnlyStore u hexdigest scope s
      (s.push (.get (stepKey hexdigest scope (before ++ [x.envAction])) row)) :=
    fun row ↦ .push hlawful (.reread _ x.result row hlength hserved) rfl
  rw [recordedResultForError, wp_bind, wp_cacheGet]
  refine ⟨?_, fun _ ↦ hread _, fun _ _ ↦ hread _⟩
  rintro (_ | text) _
  · exact hread _
  · rw [wp_bind, wp_readRow]
    exact ⟨fun _ _ ↦ hread _, fun _ ↦ hread _⟩

/-- Executing served steps again.  Each reproduces, or the episode ends after a part of them. -/
theorem materializeFrom_spec : ∀ (xs : List ServedStep) (before : List EnvAction) (actionIndex : ℕ)
    (s : Rollout A ReplayCache), Lawful u hexdigest scope s.trace →
    ServedFrom hexdigest scope s.trace before xs →
    before.length + xs.length < (requests s.trace).length →
    wp (materializeFrom u hexdigest scope world actionIndex
        (ServedStep.replayedFrom u hexdigest scope before xs))
      (fun _ s' ↦ ∃ (events : List (Event A)) (ys : List Reexecuted),
        s'.trace = s.trace ++ events ∧ s'.executor = s.executor ∧
        s'.actionChain = s.actionChain ∧ ys.map Reexecuted.served = xs ∧
        (∀ y ∈ ys, y.Reproduces u hexdigest) ∧ replies events = ys.map Reexecuted.reply ∧
        requests events = [] ∧ ∀ event ∈ events, event.isStore = false)
      (fun _ s' ↦ ∃ events, s'.trace = s.trace ++ events ∧ s'.actionChain = s.actionChain ∧
        Lawful u hexdigest scope s'.trace ∧ calls events <+: xs.map ServedStep.envAction) s
  | [], _, _, s, _, _, _ => ⟨[], [], by simp, rfl, rfl, rfl, by simp, rfl, rfl, by simp⟩
  | x :: xs, before, actionIndex, s, hlawful, hserved, hlength => by
    have hexecuted : ∀ answer, Lawful u hexdigest scope (s.push (.execute x.action answer)).trace :=
      fun answer ↦ hlawful.push (.other _ rfl)
    have hfirst : [x.envAction] <+: (x :: xs).map ServedStep.envAction := ⟨_, rfl⟩
    rw [ServedStep.replayedFrom, materializeFrom, wp_bind]
    refine wp_executeRun.mpr ⟨fun raw _ ↦ ?_, fun _ ↦ ⟨_, rfl, rfl, hexecuted _, hfirst⟩,
      fun _ _ ↦ ⟨_, rfl, rfl, hexecuted _, hfirst⟩⟩
    -- what the environment answered is known; the state from here on
    generalize hs₁ : s.push (.execute (ServedStep.replayed u hexdigest scope before x).action
      (.ok raw)) = s₁
    have hlawful₁ : Lawful u hexdigest scope s₁.trace := hs₁ ▸ hexecuted (.ok raw)
    have htrace₁ : s₁.trace = s.trace ++ [.execute x.action (.ok raw)] := hs₁ ▸ rfl
    have hchain₁ : s₁.actionChain = s.actionChain := hs₁ ▸ rfl
    have hexecutor₁ : s₁.executor = s.executor := hs₁ ▸ rfl
    have hrequests₁ : requests s₁.trace = requests s.trace := by
      rw [htrace₁, requests_append]
      exact List.append_nil _
    have hlength₁ : before.length + 1 + xs.length < (requests s₁.trace).length := by
      rw [hrequests₁]
      rw [List.length_cons] at hlength
      omega
    have hserved₁ : ServedAt hexdigest scope s₁.trace (before ++ [x.envAction]) x.result :=
      hserved.head.mono ⟨_, htrace₁.symm⟩
    dsimp only
    rw [wp_ite]
    refine ⟨fun hdrift ↦ ?_, fun hsame ↦ ?_⟩
    · have hbroken : ∀ s', OnlyStore u hexdigest scope s₁ s' → ∃ events,
          s'.trace = s.trace ++ events ∧ s'.actionChain = s.actionChain ∧
          Lawful u hexdigest scope s'.trace ∧
          calls events <+: (x :: xs).map ServedStep.envAction := by
        rintro s' ⟨events, htrace, hchain, hlawful', hevents⟩
        refine ⟨.execute x.action (.ok raw) :: events, ?_, hchain.trans hchain₁, hlawful', ?_⟩
        · rw [htrace, htrace₁, List.append_assoc, List.singleton_append]
        · have hcalls : calls (.execute x.action (.ok raw) :: events) = [x.envAction] := by
            rw [← List.singleton_append, calls_append, (unread_of_isStore hevents).2]
            rfl
          rw [hcalls]
          exact hfirst
      rw [wp_bind]
      refine wp_mono (mark_spec hlawful₁ hserved₁) (fun _ s₂ hmark ↦ ?_) fun _ _ h ↦ hbroken _ h
      have hmarked := hmark
      obtain ⟨events, htrace₂, -, hlawful₂, hevents⟩ := hmark
      rw [wp_bind]
      refine wp_mono (recordedResultForError_spec hlawful₂ (hserved₁.mono ⟨_, htrace₂.symm⟩) ?_)
        (fun _ s₃ h ↦ hbroken s₃ (hmarked.trans h)) fun _ s₃ h ↦ hbroken s₃ (hmarked.trans h)
      rw [htrace₂, requests_append, (unread_of_isStore hevents).1, List.append_nil]
      rw [List.length_append, List.length_singleton]
      omega
    · have hsame : Reexecuted.Reproduces u hexdigest ⟨x, .ofRun raw⟩ := not_not.mp hsame
      refine wp_mono (materializeFrom_spec xs (before ++ [x.envAction]) (actionIndex + 1) s₁ hlawful₁
        (hserved.tail ⟨_, htrace₁.symm⟩) (by simpa using hlength₁)) ?_ ?_
      · rintro ⟨⟩ s' ⟨events, ys, htrace, hexecutor, hchain, hys, hreproduces, hreplies, hreq, hstore⟩
        refine ⟨.execute x.action (.ok raw) :: events, ⟨x, .ofRun raw⟩ :: ys, ?_,
          hexecutor.trans hexecutor₁, hchain.trans hchain₁, ?_, ?_, ?_, hreq, ?_⟩
        · rw [htrace, htrace₁, List.append_assoc, List.singleton_append]
        · rw [List.map_cons, hys]
        · exact List.forall_mem_cons.mpr ⟨hsame, hreproduces⟩
        · rw [List.map_cons, ← hreplies]
          rfl
        · exact List.forall_mem_cons.mpr ⟨rfl, hstore⟩
      · rintro error s' ⟨events, htrace, hchain, hlawful', hcalls⟩
        refine ⟨.execute x.action (.ok raw) :: events, ?_, hchain.trans hchain₁, hlawful', ?_⟩
        · rw [htrace, htrace₁, List.append_assoc, List.singleton_append]
        · exact (List.prefix_cons_inj x.envAction).mpr hcalls

end Materialize

section GoLive

variable {xs : List ServedStep} {action : EnvAction} {s : Rollout A ReplayCache}

/-- Going live executes exactly the served steps. -/
theorem goLive_spec (h : Waiting u hexdigest scope xs action s) :
    wp (goLive u hexdigest scope world)
      (fun _ s' ↦ Ready u hexdigest scope action s' ∧ s'.actionChain = s.actionChain ∧
        s'.executor.verifyKey = s.executor.verifyKey)
      (fun _ s' ↦ s'.actionChain = s.actionChain ∧ Lawful u hexdigest scope s'.trace ∧
        calls s'.trace <+: xs.map ServedStep.envAction) s := by
  have hlength : ([] : List EnvAction).length + xs.length < (requests s.trace).length := by
    rw [h.requested]
    simp
  rw [goLive, wp_bind, wp_get, if_neg (by simp [h.live]), wp_bind, wp_update, materialize, wp_bind,
    wp_get, wp_bind]
  dsimp only
  rw [h.replayed]
  refine wp_mono (materializeFrom_spec xs [] 1 _ h.lawful h.served hlength) ?_ ?_
  · rintro ⟨⟩ s' ⟨events, ys, htrace, hexecutor, hchain, hys, hreproduces, hreplies, hreq, hstore⟩
    have hgrown : s.trace <+: s'.trace := ⟨events, htrace.symm⟩
    have hactions : s.actionChain.map ChainStep.envAction = xs.map ServedStep.envAction := by
      rw [h.chain, ServedStep.map_envAction_step]
    have hlawful : Lawful u hexdigest scope s'.trace := by
      rw [htrace]
      exact h.lawful.append hstore
    have hget : ∀ event ∈ events, event.isGet = false := by
      intro event hevent
      have := hstore event hevent
      cases event <;> first | rfl | cases this
    rw [wp_update]
    refine ⟨⟨hlawful, ?_, ?_, ?_, ?_, ?_⟩, hchain, ?_⟩
    · rw [htrace, requests_append, hreq, List.append_nil, h.requested]
      dsimp only
      rw [hchain, hactions]
    · refine ⟨s.trace, events, ys, [], [], htrace, h.unexecuted, hys ▸ h.served, hget, ?_, hreproduces, ?_, .nil⟩
      · rw [hreplies]
        simp
      · dsimp only
        rw [hchain, h.chain, ← hys, List.map_map, List.append_nil]
        rfl
    · dsimp only
      rw [hexecutor, h.digest, hchain, hactions]
    · dsimp only
      rw [hexecutor]
    · intro hrecordable
      dsimp only at hrecordable ⊢
      rw [hexecutor] at hrecordable
      rw [hchain, hactions]
      exact ⟨(h.served.servedAll.mono hgrown).passedAll,
        Or.inl ((h.recordable hrecordable).mono hgrown)⟩
    · dsimp only
      rw [hexecutor]
  · rintro error s' ⟨events, htrace, hchain, hlawful, hcalls⟩
    refine ⟨hchain, hlawful, ?_⟩
    rw [htrace, calls_append]
    dsimp only
    rw [h.unexecuted]
    exact hcalls

theorem goLive_live (hlive : s.executor.live = true)
    {Q : Unit → Rollout A ReplayCache → Prop} {E : LoopError → Rollout A ReplayCache → Prop} :
    wp (goLive u hexdigest scope world) Q E s ↔ Q () s := by
  rw [goLive, wp_bind, wp_get, if_pos hlive, wp_pure]

end GoLive

theorem crossing_ne_cancelled (error : EnvError) : error.crossing ≠ .cancelled := by
  cases error <;> simp [EnvError.crossing, EnvError.raw]

section Live

variable {s : Rollout A ReplayCache}

/-- Executing a run action live. -/
theorem runLive_spec {action : RunAction} {key : String}
    (h : Ready u hexdigest scope (.run action) s)
    (hkey : key = stepKey hexdigest scope
      (s.actionChain.map ChainStep.envAction ++ [.run action])) :
    KeepsStep u (Hot u hexdigest scope) (Settled u hexdigest scope) (Always u hexdigest scope)
      (.run action)
      (do
        let result ← executeEnvAction world (.run action)
        let elapsedSec ← perform .elapsed world.elapsed
        recordRun u world key action result elapsedSec
        return result) s := by
  subst hkey
  have hfailed : ∀ interrupt, Executes u hexdigest scope (.run action, none) s
      (s.push (.execute action (.error interrupt))) := fun interrupt ↦
    ⟨h.lawful.push (.other _ rfl), rfl, rfl, rfl, [_], rfl, rfl, rfl, by simp [Event.isGet]⟩
  rw [KeepsStep, wp_bind, wp_executeRun]
  refine ⟨fun raw _ ↦ ?_,
    fun _ ↦ ⟨(hfailed _).always h, fun _ ↦ (hfailed _).settled h (.cut (.run action) none)⟩,
    fun error _ ↦ ⟨(hfailed _).always h, fun hcancelled ↦
      absurd hcancelled (crossing_ne_cancelled error)⟩⟩
  rw [wp_bind, wp_perform]
  generalize world.elapsed (s.push (.execute action (.ok raw))).trace = elapsedSec
  have hexecutes : Executes u hexdigest scope (.run action, some (.ofRun raw)) s
      ((s.push (.execute action (.ok raw))).push (.elapsed elapsedSec)) :=
    ⟨(h.lawful.push (.other _ rfl)).push (.other _ rfl), rfl, rfl, rfl, [_, _],
      List.append_assoc _ _ _, rfl, rfl, by simp [Event.isGet]⟩
  rw [wp_bind, recordRun, wp_bind, wp_get]
  split
  · next hunrecordable =>
    exact hexecutes.keeps _ h fun hrecordable ↦ absurd hrecordable (by simpa using hunrecordable)
  next hrecordable =>
  have hrecordable : s.executor.recordableChain = true := by simpa using hrecordable
  split
  · rw [wp_update, wp_pure]
    refine Executes.keeps (.ofRun raw) ?_ h fun hcleared ↦ by cases hcleared
    exact ⟨hexecutes.lawful, hexecutes.chain, hexecutes.digest, hexecutes.live, hexecutes.trace⟩
  · next hskip =>
    have hlived : LivedAt u ((s.push (.execute action (.ok raw))).push (.elapsed elapsedSec)).trace
        (s.actionChain.map ChainStep.envAction) (.run action) (.ofRun raw) :=
      .run s.trace [] action raw elapsedSec (by simp) h.calls_eq hskip
    have hput : ∀ answer, EventOk u hexdigest scope
        ((s.push (.execute action (.ok raw))).push (.elapsed elapsedSec)).trace
        (.put (stepKey hexdigest scope (s.actionChain.map ChainStep.envAction ++ [.run action]))
          (serializeStepResult (.ofRun raw)) answer) := fun answer ↦
      .record _ _ _ answer (h.recorded hrecordable [.execute action (.ok raw), .elapsed elapsedSec]
        (by simp) rfl hlived)
    have hkept : ∀ answer, _ := fun answer ↦ (hexecutes.put (hput answer)).keeps
      (.ofRun raw) h fun _ ↦ ⟨hrecordable, _, hlived.mono ⟨_, rfl⟩⟩
    rw [wp_cachePut]
    refine ⟨fun _ ↦ hkept _, fun _ ↦ ?_, fun _ _ ↦ hkept _⟩
    exact ⟨(hexecutes.put (hput _)).always h,
      fun _ ↦ (hexecutes.put (hput _)).settled h (.cut (.run action) _)⟩

/-- Verifying live. -/
theorem verifyLive_spec (h : Ready u hexdigest scope .verify s)
    (hkey : s.executor.verifyKey =
      some (stepKey hexdigest scope (s.actionChain.map ChainStep.envAction ++ [.verify]))) :
    KeepsStep u (Hot u hexdigest scope) (Settled u hexdigest scope) (Always u hexdigest scope)
      .verify (stepVerify world) s := by
  have hfailed : ∀ interrupt, Executes u hexdigest scope (.verify, none) s
      (s.push (.verify (.error interrupt))) := fun interrupt ↦
    ⟨h.lawful.push (.other _ rfl), rfl, rfl, rfl, [_], rfl, rfl, rfl, by simp [Event.isGet]⟩
  rw [KeepsStep, stepVerify, wp_bind, wp_get]
  dsimp only
  rw [hkey]
  dsimp only
  rw [wp_ite]
  refine ⟨fun hcold ↦ absurd hcold (by simp [h.live]), fun _ ↦ ?_⟩
  rw [wp_bind, wp_executeVerify]
  refine ⟨fun outcome _ ↦ ?_,
    fun _ ↦ ⟨(hfailed _).always h, fun _ ↦ (hfailed _).settled h (.cut .verify none)⟩,
    fun error _ ↦ ⟨(hfailed _).always h, fun hcancelled ↦
      absurd hcancelled (crossing_ne_cancelled error)⟩⟩
  have hexecutes : Executes u hexdigest scope (.verify, some (.ofVerify outcome)) s
      (s.push (.verify (.ok outcome))) :=
    ⟨h.lawful.push (.other _ rfl), rfl, rfl, rfl, [_], rfl, rfl, rfl, by simp [Event.isGet]⟩
  have hlived : LivedAt u (s.push (.verify (.ok outcome))).trace
      (s.actionChain.map ChainStep.envAction) .verify (.ofVerify outcome) :=
    .verify s.trace [] outcome rfl h.calls_eq
  rw [wp_bind, wp_get]
  split
  · next hrecordable =>
    have hput : ∀ answer, EventOk u hexdigest scope (s.push (.verify (.ok outcome))).trace
        (.put (stepKey hexdigest scope (s.actionChain.map ChainStep.envAction ++ [.verify]))
          (serializeStepResult (.ofVerify outcome)) answer) := fun answer ↦
      .record _ _ _ answer (h.recorded hrecordable _ rfl rfl hlived)
    have hkept : ∀ answer, _ := fun answer ↦ (hexecutes.put (hput answer)).keeps
      (.ofVerify outcome) h fun _ ↦ ⟨hrecordable, _, hlived.mono ⟨_, rfl⟩⟩
    rw [wp_bind, wp_cachePut]
    refine ⟨fun _ ↦ hkept _, fun _ ↦ ?_, fun _ _ ↦ hkept _⟩
    exact ⟨(hexecutes.put (hput _)).always h,
      fun _ ↦ (hexecutes.put (hput _)).settled h (.cut .verify _)⟩
  · next hunrecordable =>
    exact hexecutes.keeps _ h fun hrecordable ↦ absurd hrecordable hunrecordable

end Live

section Steps

variable {xs : List ServedStep} {action : EnvAction} {s s' : Rollout A ReplayCache}
  {event : Event A}

/-- Serving a step, or waiting for it to be executed. -/
theorem serve_spec (hcold : Cold u hexdigest scope xs s)
    (hasks : Asks hexdigest event [] action s s')
    {key : String}
    (hkey : key = stepKey hexdigest scope (xs.map ServedStep.envAction ++ [action])) :
    wp (serveReplay world key)
      (fun served s'' ↦ s''.executor.verifyKey = s'.executor.verifyKey ∧ match served with
        | none => Waiting u hexdigest scope xs action s'' ∧ s''.actionChain = s.actionChain
        | some result => s''.executor = s'.executor ∧ Lawful u hexdigest scope s''.trace ∧
          (∃ events, Asks hexdigest event events action s s'') ∧
          ServedAt hexdigest scope s''.trace (xs.map ServedStep.envAction ++ [action]) result)
      (fun _ s'' ↦ Lawful u hexdigest scope s''.trace ∧ calls s''.trace = []) s' := by
  subst hkey
  have htrace : s'.trace = s.trace ++ [event] := hasks.trace
  have hrequested := hasks.requested hcold
  have hserved : ServedAll hexdigest scope s'.trace (xs.map ServedStep.envAction) :=
    hcold.served.servedAll.mono ⟨_, htrace.symm⟩
  have hlawful : Lawful u hexdigest scope s'.trace := by
    rw [htrace]
    exact hcold.lawful.push (.other event (Event.isStore_of_loop (ofExecutor_of_requested
      hasks.request)))
  have hmarker : ∀ answer, Lawful u hexdigest scope (s'.push (.get (blockedKey
      (stepKey hexdigest scope (xs.map ServedStep.envAction ++ [action]))) answer)).trace :=
    fun answer ↦ hlawful.push (.readMarker _ action answer hrequested hserved)
  have hlive : s'.executor.live = false := hasks.live.trans hcold.live
  refine wp_serveReplay hlive (fun value _ ↦ ?_) ⟨hmarker _, ?_⟩ fun marker _ hmissed answer _ ↦ ?_
  · -- there is a marker
    have hasked := hasks.access { s'.push (.get (blockedKey (stepKey hexdigest scope
        (xs.map ServedStep.envAction ++ [action]))) (.ok (some value))) with
      executor := { s'.executor with recordableChain := false } } rfl rfl rfl rfl rfl rfl
    exact ⟨rfl, hasked.waiting hcold (hmarker _) (by simp), hasks.chain⟩
  · rw [Rollout.push_trace, calls_append, hasks.unexecuted hcold]
    rfl
  · -- there is none, and the row is read
    generalize hs₁ : s'.push (.get (blockedKey (stepKey hexdigest scope
      (xs.map ServedStep.envAction ++ [action]))) marker) = s₁
    have hlawful₁ : Lawful u hexdigest scope s₁.trace := hs₁ ▸ hmarker marker
    have htrace₁ : s₁.trace = s'.trace ++ [.get (blockedKey (stepKey hexdigest scope
      (xs.map ServedStep.envAction ++ [action]))) marker] := hs₁ ▸ rfl
    have hexecutor₁ : s₁.executor = s'.executor := hs₁ ▸ rfl
    have hchain₁ : s₁.actionChain = s'.actionChain := hs₁ ▸ rfl
    have hunmarked : Unmarked hexdigest scope s₁.trace (xs.map ServedStep.envAction ++ [action]) :=
      ⟨marker, hmissed, by simp [htrace₁]⟩
    have hasked₁ := hasks.access s₁ rfl htrace₁ hchain₁ (by rw [hexecutor₁])
      (by rw [hexecutor₁]) (by rw [hexecutor₁])
    have hasked := hasked₁.access (s₁.push (.get (stepKey hexdigest scope
      (xs.map ServedStep.envAction ++ [action])) answer)) rfl rfl rfl rfl rfl rfl
    have hrow : Lawful u hexdigest scope (s₁.push (.get (stepKey hexdigest scope
        (xs.map ServedStep.envAction ++ [action])) answer)).trace :=
      hlawful₁.push (.readRow _ action answer (hasked₁.requested hcold)
        (hserved.mono ⟨_, htrace₁.symm⟩) hunmarked)
    refine ⟨?_, fun _ ↦ ⟨hrow, hasked.unexecuted hcold⟩, fun _ ↦
      ⟨by rw [Rollout.push_executor, hexecutor₁],
        hasked.waiting hcold hrow fun _ ↦ hunmarked.mono ⟨_, rfl⟩, hasked.chain⟩⟩
    rintro text rfl
    refine ⟨fun result hresult ↦ ?_, fun _ ↦ ⟨hrow, hasked.unexecuted hcold⟩⟩
    exact ⟨by rw [Rollout.push_executor, hexecutor₁], hexecutor₁, hrow, ⟨_, hasked⟩,
      hunmarked.mono ⟨_, rfl⟩, text, by simp, hresult⟩

theorem stepRun_spec {action : RunAction} (h : Between u hexdigest scope s)
    (hevent : event.requested? = some (.run action)) :
    KeepsStep u (Between u hexdigest scope) (Settled u hexdigest scope) (Always u hexdigest scope)
      (.run action) (stepRun u hexdigest scope world action) (s.push event) := by
  have hhot : ∀ {key : String} {s' : Rollout A ReplayCache},
      Ready u hexdigest scope (.run action) s' →
      key = stepKey hexdigest scope (s'.actionChain.map ChainStep.envAction ++ [.run action]) →
      KeepsStep u (Between u hexdigest scope) (Settled u hexdigest scope) (Always u hexdigest scope)
        (.run action)
        (do
          let result ← executeEnvAction world (.run action)
          let elapsedSec ← perform .elapsed world.elapsed
          recordRun u world key action result elapsedSec
          return result) s' := by
    intro key s' hready hkey
    refine wp_mono (runLive_spec hready hkey) ?_ fun _ _ h ↦ h
    exact fun _ _ h ↦ ⟨h.1, fun hrunning ↦ Or.inr (h.2 hrunning)⟩
  rw [KeepsStep, stepRun, wp_bind, wp_advance, wp_bind]
  rcases h with ⟨xs, hcold⟩ | hhot'
  · have hasks : Asks hexdigest event [] (.run action) s { s.push event with executor :=
        { s.executor with digest := advanceDigest hexdigest s.executor.digest (.run action) } } :=
      ⟨hevent, by simp, rfl, rfl, rfl, rfl, rfl⟩
    have hkey : keyOf (advanceDigest hexdigest s.executor.digest (.run action)) =
        stepKey hexdigest scope (xs.map ServedStep.envAction ++ [.run action]) := by
      rw [stepKey, chainDigest_snoc, hcold.digest]
    refine wp_mono (serve_spec hcold hasks hkey) ?_ ?_
    · rintro (_ | result) s₁ ⟨-, hserve⟩
      · obtain ⟨hwaiting, hchain⟩ := hserve
        rw [wp_bind]
        refine wp_mono (goLive_spec hwaiting) ?_ ?_
        · rintro ⟨⟩ s₂ ⟨hready, hchain₂, -⟩
          refine hhot hready ?_
          rw [hchain₂, hchain, hcold.chain, ServedStep.map_envAction_step]
          exact hkey
        · rintro error s₂ ⟨hchain₂, hlawful, hcalls⟩
          have hxs : s₂.actionChain = xs.map (ServedStep.step u) :=
            hchain₂.trans (hchain.trans hcold.chain)
          exact ⟨⟨hlawful, Or.inr (Or.inl (interrupted hxs hcalls))⟩,
            fun _ ↦ ⟨hlawful, Or.inr (Or.inl (interrupted_record hxs hcalls _ _))⟩⟩
      · obtain ⟨hexecutor, hlawful, ⟨events, hasked⟩, hserved⟩ := hserve
        rw [wp_bind, wp_update, wp_pure]
        have hnext := hcold.snoc (Rollout.record { s₁ with executor := { s₁.executor with
            replayed := s₁.executor.replayed ++ [⟨action, keyOf (advanceDigest hexdigest
              s.executor.digest (.run action)), u.scrubbedHash hexdigest.digest action.command result⟩] } }
            ⟨.run action, u.scrubStepResult (some action.command) result, false⟩) hasked hlawful
          (by rw [hexecutor]; exact hcold.recordable) hserved rfl rfl (by rw [← hkey]; rfl)
        exact ⟨Between.settled (Or.inl ⟨_, hnext⟩), fun _ ↦ Or.inl ⟨_, hnext⟩⟩
    · rintro error s₁ ⟨hlawful, hcalls⟩
      exact ⟨unexecuted_always hlawful hcalls, fun _ ↦ unexecuted_settled hlawful hcalls _⟩
  · have hready := hhot'.ready ({ s.push event with executor :=
      { s.executor with digest := advanceDigest hexdigest s.executor.digest (.run action) } })
      hevent rfl rfl rfl rfl rfl
    refine (wp_serveReplay_live hready.live).mpr (wp_bind.mpr ((goLive_live hready.live).mpr ?_))
    refine hhot hready ?_
    rw [stepKey, chainDigest_snoc, Rollout.push_executor, hhot'.digest]
    rfl

theorem submit_spec (h : Between u hexdigest scope s)
    (hevent : event.requested? = some .verify) :
    wp (prepareSubmit u hexdigest scope world)
      (fun served s' ↦ Lawful u hexdigest scope s'.trace ∧ KeepsStep u
        (fun s'' ↦ VerdictsRead hexdigest scope s''.trace → Between u hexdigest scope s'')
        (Settled u hexdigest scope) (Always u hexdigest scope) .verify
        (served.elim (stepVerify world) pure) s')
      (fun _ s' ↦ Always u hexdigest scope s') (s.push event) := by
  have hhot : ∀ {s' : Rollout A ReplayCache}, Ready u hexdigest scope .verify s' →
      s'.executor.verifyKey =
        some (stepKey hexdigest scope (s'.actionChain.map ChainStep.envAction ++ [.verify])) →
      KeepsStep u
        (fun s'' ↦ VerdictsRead hexdigest scope s''.trace → Between u hexdigest scope s'')
        (Settled u hexdigest scope) (Always u hexdigest scope) .verify (stepVerify world) s' := by
    intro s' hready hkey
    refine wp_mono (verifyLive_spec hready hkey) ?_ fun _ _ h ↦ h
    exact fun _ _ h ↦ ⟨h.1, fun hrunning _ ↦ Or.inr (h.2 hrunning)⟩
  rw [prepareSubmit, wp_bind, wp_advance, wp_bind, wp_update, wp_bind]
  rcases h with ⟨xs, hcold⟩ | hhot'
  · have hkey : keyOf (advanceDigest hexdigest s.executor.digest .verify) =
        stepKey hexdigest scope (xs.map ServedStep.envAction ++ [.verify]) := by
      rw [stepKey, chainDigest_snoc, hcold.digest]
    have hasks : Asks hexdigest event [] .verify s { s.push event with executor :=
        { s.executor with
          digest := advanceDigest hexdigest s.executor.digest .verify
          verifyKey := some (keyOf (advanceDigest hexdigest s.executor.digest .verify)) } } :=
      ⟨hevent, by simp, rfl, rfl, rfl, rfl, rfl⟩
    refine wp_mono (serve_spec hcold hasks hkey) ?_ ?_
    · rintro (_ | result) s₁ ⟨hverifyKey, hserve⟩
      · obtain ⟨hwaiting, hchain⟩ := hserve
        rw [wp_bind]
        refine wp_mono (goLive_spec hwaiting) ?_ ?_
        · rintro ⟨⟩ s₂ ⟨hready, hchain₂, hverifyKey₂⟩
          refine ⟨hready.lawful, hhot hready ?_⟩
          rw [hchain₂, hchain, hcold.chain, ServedStep.map_envAction_step, ← hkey, hverifyKey₂,
            hverifyKey]
        · rintro error s₂ ⟨hchain₂, hlawful, hcalls⟩
          exact ⟨hlawful, Or.inr (Or.inl (interrupted
            (hchain₂.trans (hchain.trans hcold.chain)) hcalls))⟩
      · obtain ⟨-, hlawful, ⟨events, hasked⟩, hserved⟩ := hserve
        have hcalls := hasked.unexecuted hcold
        -- a served verdict ends the episode
        have hkept : ∀ s₂ : Rollout A ReplayCache, Lawful u hexdigest scope s₂.trace →
            calls s₂.trace = [] → s₁.trace <+: s₂.trace →
            Lawful u hexdigest scope s₂.trace ∧ KeepsStep u
            (fun s'' ↦ VerdictsRead hexdigest scope s''.trace → Between u hexdigest scope s'')
            (Settled u hexdigest scope) (Always u hexdigest scope) .verify (pure result) s₂ := by
          intro s₂ hlawful₂ hcalls₂ hgrown
          refine ⟨hlawful₂, unexecuted_settled hlawful₂ hcalls₂ _, fun hrunning hverdicts ↦ ?_⟩
          obtain ⟨text, hrow, hresult⟩ := hserved.row
          rw [hverdicts _ text result (hgrown.subset hrow) hresult] at hrunning
          cases hrunning
        dsimp only
        rw [wp_ite, wp_bind, wp_perform, wp_bind]
        refine ⟨fun _ ↦ ?_, fun _ ↦ hkept s₁ hlawful hcalls (List.prefix_refl _)⟩
        have hlawful₂ : ∀ answer, Lawful u hexdigest scope
            (s₁.push (.writeVerifyArtifacts result answer)).trace :=
          fun answer ↦ hlawful.push (.other _ rfl)
        have hcalls₂ : ∀ answer, calls (s₁.push (.writeVerifyArtifacts result answer)).trace = [] := by
          intro answer
          rw [Rollout.push_trace, calls_append, hcalls]
          rfl
        rw [Answer.wp_orRaise]
        exact ⟨fun _ _ ↦ hkept _ (hlawful₂ _) (hcalls₂ _) ⟨_, rfl⟩,
          fun _ ↦ unexecuted_always (hlawful₂ _) (hcalls₂ _),
          fun _ _ ↦ unexecuted_always (hlawful₂ _) (hcalls₂ _)⟩
    · rintro error s₁ ⟨hlawful, hcalls⟩
      exact unexecuted_always hlawful hcalls
  · have hready := hhot'.ready ({ s.push event with executor :=
      { s.executor with
        digest := advanceDigest hexdigest s.executor.digest .verify
        verifyKey := some (keyOf (advanceDigest hexdigest s.executor.digest .verify)) } })
      hevent rfl rfl rfl rfl rfl
    refine (wp_serveReplay_live hready.live).mpr (wp_bind.mpr ((goLive_live hready.live).mpr ?_))
    refine ⟨hready.lawful, hhot hready ?_⟩
    rw [stepKey, chainDigest_snoc, Rollout.push_actionChain, ← hhot'.digest]

end Steps

section Keeps

variable {action : EnvAction} {s : Rollout A ReplayCache}

/-- A part of the loop under the assumption that the rows read for submits are verdicts.  Once they
are not, nothing is asked of the accesses that follow. -/
theorem wp_assuming {α : Type} {m : LoopM A ReplayCache α}
    {Q : α → Rollout A ReplayCache → Prop} {E : LoopError → Rollout A ReplayCache → Prop}
    (hhonest : Honest u hexdigest scope s.trace)
    (hextends : wp m (fun _ s' ↦ Extends s s') (fun _ s' ↦ Extends s s') s)
    (h : VerdictsRead hexdigest scope s.trace →
      wp m (fun a s' ↦ Lawful u hexdigest scope s'.trace ∧ Q a s')
        (fun e s' ↦ Lawful u hexdigest scope s'.trace ∧ E e s') s) :
    wp m
      (fun a s' ↦ Honest u hexdigest scope s'.trace ∧ (VerdictsRead hexdigest scope s'.trace → Q a s'))
      (fun e s' ↦ Honest u hexdigest scope s'.trace ∧ (VerdictsRead hexdigest scope s'.trace → E e s'))
      s := by
  by_cases hs : VerdictsRead hexdigest scope s.trace
  · exact wp_mono (h hs) (fun _ _ h ↦ ⟨h.1.honest, fun _ ↦ h.2⟩)
      fun _ _ h ↦ ⟨h.1.honest, fun _ ↦ h.2⟩
  · have hbroken : ∀ s', Extends s s' → Honest u hexdigest scope s'.trace ∧
        ¬VerdictsRead hexdigest scope s'.trace := by
      rintro s' ⟨events, htrace, -⟩
      have hgrown : s.trace <+: s'.trace := ⟨events, htrace.symm⟩
      exact ⟨hhonest.append hs hgrown, fun hs' ↦ hs (hs'.mono hgrown)⟩
    exact wp_mono hextends (fun _ s' h ↦ ⟨(hbroken s' h).1, fun hs' ↦ absurd hs' (hbroken s' h).2⟩)
      fun _ s' h ↦ ⟨(hbroken s' h).1, fun hs' ↦ absurd hs' (hbroken s' h).2⟩

/-- An invariant under the assumption. -/
def Assuming (u : Unicode) (hexdigest : Hexdigest) (scope : ReplayScope)
    (I : Rollout A ReplayCache → Prop) (s : Rollout A ReplayCache) : Prop :=
  Honest u hexdigest scope s.trace ∧ (VerdictsRead hexdigest scope s.trace → I s)

theorem Assuming.push {I : Rollout A ReplayCache → Prop} {event : Event A}
    (h : Assuming u hexdigest scope I s) (hloop : event.ofExecutor = false)
    (hpush : I s → I (s.push event)) : Assuming u hexdigest scope I (s.push event) := by
  have hgrown : s.trace <+: (s.push event).trace := ⟨[event], rfl⟩
  refine ⟨?_, fun hs ↦ hpush (h.2 (hs.mono hgrown))⟩
  intro before event' after htrace hverdicts
  rcases Transitions.split_snoc htrace with ⟨rfl, rfl⟩ | ⟨rest, hbefore⟩
  · exact .other event (Event.isStore_of_loop hloop)
  · exact h.1 before event' rest hbefore hverdicts

/-- A step under the assumption. -/
theorem keepsStep_assuming {step : LoopM A ReplayCache StepResult}
    (hhonest : Honest u hexdigest scope s.trace)
    (hextends : wp step (fun _ s' ↦ Extends s s') (fun _ s' ↦ Extends s s') s)
    (h : VerdictsRead hexdigest scope s.trace → KeepsStep u
      (fun s' ↦ VerdictsRead hexdigest scope s'.trace → Between u hexdigest scope s')
      (Settled u hexdigest scope) (Always u hexdigest scope) action step s) :
    KeepsStep u (Assuming u hexdigest scope (Between u hexdigest scope))
      (Assuming u hexdigest scope (Settled u hexdigest scope))
      (Assuming u hexdigest scope (Always u hexdigest scope)) action step s := by
  refine wp_mono (wp_assuming hhonest hextends fun hs ↦ wp_mono (h hs) (fun _ _ h ↦ ⟨h.1.1, h⟩)
    fun _ _ h ↦ ⟨h.1.1, h⟩) ?_ ?_
  · exact fun result s' h ↦ ⟨⟨h.1, fun hs' ↦ (h.2 hs').1⟩,
      fun hrunning ↦ ⟨h.1, fun hs' ↦ (h.2 hs').2 hrunning hs'⟩⟩
  · exact fun error s' h ↦ ⟨⟨h.1, fun hs' ↦ (h.2 hs').1⟩,
      fun hcancelled ↦ ⟨h.1, fun hs' ↦ (h.2 hs').2 hcancelled⟩⟩

/-- **The step cache keeps its invariants**, as long as the rows it reads for submits are
verdicts. -/
theorem keeps : Keeps u (executor u hexdigest scope world)
    (Assuming u hexdigest scope (Between u hexdigest scope))
    (Assuming u hexdigest scope (Settled u hexdigest scope))
    (Assuming u hexdigest scope (Always u hexdigest scope)) where
  settle s h := ⟨h.1, fun hs ↦ (h.2 hs).settled⟩
  weaken s h := ⟨h.1, fun hs ↦ (h.2 hs).always⟩
  push_between s event hloop hrequest h := h.push hloop fun hs ↦ hs.push hloop hrequest
  push_settled s event hloop hrequest h := h.push hloop fun hs ↦ hs.push hloop hrequest
  push_always s event hloop hrequest h := h.push hloop fun hs ↦ hs.push hloop hrequest
  provision s h := h
  stepRun action s event hevent h := by
    have hasked : Assuming u hexdigest scope (fun _ ↦ True) (s.push event) :=
      Assuming.push ⟨h.1, fun _ ↦ trivial⟩ (ofExecutor_of_requested hevent) id
    refine keepsStep_assuming hasked.1 (preserves_stepRun action _) fun hs ↦ ?_
    refine wp_mono (stepRun_spec (h.2 (hs.mono ⟨_, rfl⟩)) hevent) ?_ fun _ _ h ↦ h
    exact fun _ _ h ↦ ⟨h.1, fun hrunning _ ↦ h.2 hrunning⟩
  submit s event hevent h := by
    have hasked : Assuming u hexdigest scope (fun _ ↦ True) (s.push event) :=
      Assuming.push ⟨h.1, fun _ ↦ trivial⟩ (ofExecutor_of_requested hevent) id
    have hextends : wp (prepareSubmit u hexdigest scope world)
        (fun _ s' ↦ Extends (s.push event) s') (fun _ s' ↦ Extends (s.push event) s')
        (s.push event) := preserves_prepareSubmit _
    refine wp_mono (wp_assuming hasked.1 hextends fun hs ↦
      wp_mono (submit_spec (h.2 (hs.mono ⟨_, rfl⟩)) hevent) (fun _ _ h ↦ h)
        fun _ _ h ↦ ⟨h.1, h⟩) (fun served s' hserved ↦ ?_) fun _ _ h ↦ h
    refine keepsStep_assuming hserved.1 ?_ hserved.2
    cases served with
    | none => exact wp_mono (stepVerify_spec s') (fun _ _ h ↦ h.1) fun _ _ h ↦ h
    | some result => exact Extends.refl s'

/-- A fresh cache. -/
theorem assuming_fresh (u : Unicode) (hexdigest : Hexdigest) (scope : ReplayScope) :
    Assuming (A := A) u hexdigest scope (Between u hexdigest scope)
      { executor := .new hexdigest scope } := by
  have hlawful : Lawful (A := A) u hexdigest scope [] := by
    rintro before event after htrace
    simp at htrace
  have hfresh : Cold (A := A) u hexdigest scope [] { executor := .new hexdigest scope } := by
    refine ⟨hlawful, rfl, rfl, rfl, ?_, rfl, rfl, rfl, rfl⟩
    rintro first x hfirst
    simp at hfirst
  exact ⟨hlawful.honest, fun _ ↦ Or.inl ⟨[], hfresh⟩⟩

/-- What holds of a run of the loop on a fresh cache. -/
theorem runTaskLoop_kept (maxSteps : ℕ) (stallTimeoutSec : ℚ) :
    wp (runTaskLoop u world (executor u hexdigest scope world) maxSteps stallTimeoutSec)
      (fun outcome s ↦ Assuming u hexdigest scope (Always u hexdigest scope) s ∧
        (outcome.stepsTaken.isSome = true → Assuming u hexdigest scope (Settled u hexdigest scope) s))
      (fun _ s ↦ Assuming u hexdigest scope (Always u hexdigest scope) s)
      { executor := .new hexdigest scope } :=
  runTaskLoop_invariant keeps maxSteps stallTimeoutSec (assuming_fresh u hexdigest scope)

end Keeps

/-- What no operation of the cache, no event of the loop and no step on the chain ends, the loop
keeps. -/
theorem Allows.keeps {I : Rollout A ReplayCache → Prop} (h : Allows world fun s s' ↦ I s → I s')
    (hpush : ∀ s (event : Event A), event.ofExecutor = false → I s → I (s.push event))
    (hrecord : ∀ s step, I s → I (s.record step)) :
    Keeps u (executor u hexdigest scope world) I I I := by
  have hstep : ∀ {action : EnvAction} {step : LoopM A ReplayCache StepResult}
      {s : Rollout A ReplayCache}, Preserves (fun s s' ↦ I s → I s') step → I s →
      KeepsStep u I I I action step s := by
    intro action step s hpreserves hs
    refine wp_mono (hpreserves s) (fun _ _ h ↦ ?_) fun _ _ h ↦ ⟨h hs, fun _ ↦ hrecord _ _ (h hs)⟩
    exact ⟨hrecord _ _ (h hs), fun _ ↦ hrecord _ _ (h hs)⟩
  constructor
  case settle => exact fun _ h ↦ h
  case weaken => exact fun _ h ↦ h
  case push_between => exact fun s event hloop _ ↦ hpush s event hloop
  case push_settled => exact fun s event hloop _ ↦ hpush s event hloop
  case push_always => exact fun s event hloop _ ↦ hpush s event hloop
  case provision => exact fun _ h ↦ h
  case stepRun =>
    exact fun action s event hevent hs ↦
      hstep (h.accesses.stepRun action) (hpush s event (ofExecutor_of_requested hevent) hs)
  case submit =>
    intro s event hevent hs
    have hs' := hpush s event (ofExecutor_of_requested hevent) hs
    refine wp_mono (h.accesses.prepareSubmit _) (fun served s' hserved ↦ ?_) fun _ _ h ↦ h hs'
    cases served with
    | none => exact hstep h.accesses.stepVerify (hserved hs')
    | some result => exact hstep (.pure (fun _ h ↦ h) result) (hserved hs')

/-- What a trace starts with, it keeps. -/
theorem keeps_prefix (start : List (Event A)) :
    Keeps u (executor u hexdigest scope world) (fun s ↦ start <+: s.trace)
      (fun s ↦ start <+: s.trace) fun s ↦ start <+: s.trace := by
  refine Allows.keeps ⟨fun _ h ↦ h, fun _ _ _ h h' hs ↦ h' (h hs), fun _ _ ↦ id, ?_⟩ ?_
    fun _ _ h ↦ h
  · exact fun event s _ _ hs ↦ hs.trans ⟨_, rfl⟩
  · exact fun s event _ hs ↦ hs.trans ⟨_, rfl⟩

end ReplayCache

end HarnessTraining
