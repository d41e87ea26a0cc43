import HarnessTraining.Replay.Evidence
import HarnessTraining.Rollout.Invariant

/-!
# The invariant of a replayed episode

Between two steps a replayed episode is *cold*: every step so far was served and nothing was
executed; or it is *hot*: the environment has executed the served steps again, reproducing them, and
every later step of the chain.

* `ReplayCache.goLive_spec` — going live executes exactly the served steps.
* `ReplayCache.keeps` — the step cache keeps these invariants, as long as the rows it reads for a
  submit are verdicts.
-/

set_option autoImplicit false

namespace HarnessTraining

open StateExcept

/-! ## Served steps -/

/-- A step that was served. -/
structure ServedStep where
  action : RunAction
  result : StepResult

namespace ServedStep

variable (u : Unicode) (hexdigest : Hexdigest) (scope : ReplayScope)

def envAction (served : ServedStep) : EnvAction := .run served.action

/-- The step on the action chain. -/
def step (served : ServedStep) : ChainStep :=
  ⟨.run served.action, u.scrubStepResult (some served.action.command) served.result, false⟩

/-- What the cache keeps of it, after the actions `before`. -/
def replayed (before : List EnvAction) (served : ServedStep) : ReplayedStep :=
  ⟨served.action, stepKey hexdigest scope (before ++ [served.envAction]),
    u.scrubbedHash hexdigest.digest served.action.command served.result⟩

/-- What the cache keeps of the steps that were served. -/
def replayedFrom : List EnvAction → List ServedStep → List ReplayedStep
  | _, [] => []
  | before, served :: rest =>
    served.replayed u hexdigest scope before :: replayedFrom (before ++ [served.envAction]) rest

variable {u hexdigest scope}

theorem replayedFrom_snoc (before : List EnvAction) (xs : List ServedStep) (served : ServedStep) :
    replayedFrom u hexdigest scope before (xs ++ [served]) =
      replayedFrom u hexdigest scope before xs ++
        [served.replayed u hexdigest scope (before ++ xs.map envAction)] := by
  induction xs generalizing before with
  | nil => simp [replayedFrom]
  | cons x xs ih => simp [replayedFrom, ih]

theorem map_envAction_step (xs : List ServedStep) :
    (xs.map (step u)).map ChainStep.envAction = xs.map envAction := by
  rw [List.map_map]
  rfl

end ServedStep

/-- A served step, and what the environment answered when it was executed again. -/
structure Reexecuted where
  served : ServedStep
  live : StepResult

/-- The environment answered as recorded. -/
def Reexecuted.Reproduces (u : Unicode) (hexdigest : Hexdigest) (x : Reexecuted) : Prop :=
  u.scrubbedHash hexdigest.digest x.served.action.command
      (u.scrubStepResult x.served.action.command x.live) =
    u.scrubbedHash hexdigest.digest x.served.action.command x.served.result

def Reexecuted.reply (x : Reexecuted) : EnvAction × Option StepResult :=
  (x.served.envAction, some x.live)

/-! ## The invariants -/

section Invariants

variable {A : Type} (u : Unicode) (hexdigest : Hexdigest) (scope : ReplayScope)

/-- A step of the chain that was executed live, with what the environment answered; a deadline may
have cut it short. -/
structure LiveStep (reply : EnvAction × Option StepResult) (step : ChainStep) : Prop where
  envAction : step.envAction = reply.1
  result : step.timedOut = false → ∃ result, reply.2 = some result ∧
    step.stepResult = u.scrubStepResult reply.1.command? result
  cutShort : step.timedOut = true →
    step.stepResult = u.scrubStepResult reply.1.command? .timedOut

/-- The steps after `before` were served, each from its row. -/
def ServedFrom (trace : List (Event A)) (before : List EnvAction) (xs : List ServedStep) : Prop :=
  ∀ first x, first ++ [x] <+: xs → ServedAt hexdigest scope trace
    (before ++ (first ++ [x]).map ServedStep.envAction) x.result

/-- The environment has executed the served steps again, each once and in order, and each reproduced
its recorded audit hash; then every later step of the chain, and `pending`.  The store was read only
before. -/
def Grounded (pending : List (EnvAction × Option StepResult)) (s : Rollout A ReplayCache) : Prop :=
  ∃ (before after : List (Event A)) (xs : List Reexecuted)
      (lived : List (EnvAction × Option StepResult)) (liveSteps : List ChainStep),
    s.trace = before ++ after ∧ calls before = [] ∧
    ServedFrom hexdigest scope before [] (xs.map Reexecuted.served) ∧
    (∀ event ∈ after, event.isGet = false) ∧
    replies after = xs.map Reexecuted.reply ++ (lived ++ pending) ∧
    (∀ x ∈ xs, x.Reproduces u hexdigest) ∧
    s.actionChain = xs.map (fun x ↦ x.served.step u) ++ liveSteps ∧
    List.Forall₂ (LiveStep u) lived liveSteps

/-- The environment has executed a part of the served steps again, and the episode ended there: no
transition of the chain is one of a live step. -/
def Interrupted (s : Rollout A ReplayCache) : Prop :=
  ∃ (xs : List ServedStep) (tail : List ChainStep),
    s.actionChain = xs.map (ServedStep.step u) ++ tail ∧ tail.length ≤ 1 ∧
    (∀ step ∈ tail, step.timedOut = true) ∧ calls s.trace <+: xs.map ServedStep.envAction

/-- Every step so far was served. -/
structure Cold (xs : List ServedStep) (s : Rollout A ReplayCache) : Prop where
  lawful : Lawful u hexdigest scope s.trace
  requested : requests s.trace = xs.map ServedStep.envAction
  unexecuted : calls s.trace = []
  chain : s.actionChain = xs.map (ServedStep.step u)
  served : ServedFrom hexdigest scope s.trace [] xs
  digest : s.executor.digest = chainDigest hexdigest scope (xs.map ServedStep.envAction)
  replayed : s.executor.replayed = ServedStep.replayedFrom u hexdigest scope [] xs
  live : s.executor.live = false
  recordable : s.executor.recordableChain = true

/-- The environment has executed the whole chain. -/
structure Hot (s : Rollout A ReplayCache) : Prop where
  lawful : Lawful u hexdigest scope s.trace
  requested : requests s.trace = s.actionChain.map ChainStep.envAction
  executed : calls s.trace ≠ []
  grounded : Grounded u hexdigest scope [] s
  digest : s.executor.digest = chainDigest hexdigest scope (s.actionChain.map ChainStep.envAction)
  live : s.executor.live = true
  recordable : s.executor.recordableChain = true →
    PassedAll u hexdigest scope s.trace (s.actionChain.map ChainStep.envAction)

/-- Between two steps. -/
def Between (s : Rollout A ReplayCache) : Prop :=
  (∃ xs, Cold u hexdigest scope xs s) ∨ Hot u hexdigest scope s

/-- After the last step. -/
def Settled (s : Rollout A ReplayCache) : Prop :=
  Lawful u hexdigest scope s.trace ∧ (calls s.trace = [] ∨ Interrupted u s ∨
    Grounded u hexdigest scope [] s ∧ requests s.trace = calls s.trace)

/-- At any moment; a call of the environment that raised is on no chain. -/
def Always (s : Rollout A ReplayCache) : Prop :=
  Lawful u hexdigest scope s.trace ∧ (calls s.trace = [] ∨ Interrupted u s ∨
    ∃ pending : List (EnvAction × Option StepResult), pending.length ≤ 1 ∧
      Grounded u hexdigest scope pending s ∧ requests s.trace = calls s.trace)

/-- In a step, with every step before it served: the store had no row, or it had a marker. -/
structure Waiting (xs : List ServedStep) (action : EnvAction) (s : Rollout A ReplayCache) : Prop where
  lawful : Lawful u hexdigest scope s.trace
  requested : requests s.trace = xs.map ServedStep.envAction ++ [action]
  unexecuted : calls s.trace = []
  chain : s.actionChain = xs.map (ServedStep.step u)
  served : ServedFrom hexdigest scope s.trace [] xs
  digest : s.executor.digest = chainDigest hexdigest scope (xs.map ServedStep.envAction ++ [action])
  replayed : s.executor.replayed = ServedStep.replayedFrom u hexdigest scope [] xs
  live : s.executor.live = false
  recordable : s.executor.recordableChain = true →
    Unmarked hexdigest scope s.trace (xs.map ServedStep.envAction ++ [action])

/-- In a step, right before it is executed live. -/
structure Ready (action : EnvAction) (s : Rollout A ReplayCache) : Prop where
  lawful : Lawful u hexdigest scope s.trace
  requested : requests s.trace = s.actionChain.map ChainStep.envAction ++ [action]
  grounded : Grounded u hexdigest scope [] s
  digest : s.executor.digest =
    chainDigest hexdigest scope (s.actionChain.map ChainStep.envAction ++ [action])
  live : s.executor.live = true
  recordable : s.executor.recordableChain = true →
    PassedAll u hexdigest scope s.trace (s.actionChain.map ChainStep.envAction) ∧
    (Unmarked hexdigest scope s.trace (s.actionChain.map ChainStep.envAction ++ [action]) ∨
      LiveBefore s.trace (s.actionChain.length + 1))

end Invariants

section Facts

variable {A : Type} {u : Unicode} {hexdigest : Hexdigest} {scope : ReplayScope}
  {s s' : Rollout A ReplayCache} {pending : List (EnvAction × Option StepResult)}
  {events : List (Event A)} {action : EnvAction}

theorem LiveStep.map_envAction {lived : List (EnvAction × Option StepResult)}
    {liveSteps : List ChainStep} (h : List.Forall₂ (LiveStep u) lived liveSteps) :
    lived.map Prod.fst = liveSteps.map ChainStep.envAction := by
  induction h with
  | nil => rfl
  | cons hstep _ ih => rw [List.map_cons, List.map_cons, ih, hstep.envAction]

/-- What the environment has executed, if the served steps are grounded. -/
theorem Grounded.calls_eq (h : Grounded u hexdigest scope pending s) :
    calls s.trace = s.actionChain.map ChainStep.envAction ++ pending.map Prod.fst := by
  obtain ⟨before, after, xs, lived, liveSteps, htrace, hbefore, -, -, hafter, -, hchain, hlive⟩ := h
  rw [htrace, calls_append, hbefore, List.nil_append, HarnessTraining.calls_eq, hafter, hchain,
    List.map_append, List.map_append, List.map_append, List.map_map, List.map_map,
    LiveStep.map_envAction hlive, List.append_assoc]
  rfl

/-- More is pending. -/
theorem Grounded.append (h : Grounded u hexdigest scope [] s) (htrace : s'.trace = s.trace ++ events)
    (hchain : s'.actionChain = s.actionChain) (hevents : ∀ event ∈ events, event.isGet = false) :
    Grounded u hexdigest scope (replies events) s' := by
  obtain ⟨before, after, xs, lived, liveSteps, hs, hbefore, hserved, hget, hafter, hxs, hsteps, hlive⟩ := h
  refine ⟨before, after ++ events, xs, lived, liveSteps, by rw [htrace, hs, List.append_assoc],
    hbefore, hserved, ?_, ?_, hxs, hchain.trans hsteps, hlive⟩
  · intro event hevent
    exact (List.mem_append.mp hevent).elim (hget event) (hevents event)
  · rw [replies_append, hafter, List.append_nil, List.append_assoc]

/-- What was pending is recorded. -/
theorem Grounded.record {reply : EnvAction × Option StepResult} {step : ChainStep}
    (h : Grounded u hexdigest scope [reply] s) (hstep : LiveStep u reply step) :
    Grounded u hexdigest scope [] (s.record step) := by
  obtain ⟨before, after, xs, lived, liveSteps, hs, hbefore, hserved, hget, hafter, hxs, hsteps, hlive⟩ := h
  refine ⟨before, after, xs, lived ++ [reply], liveSteps ++ [step], hs, hbefore, hserved, hget, ?_, hxs, ?_,
    List.rel_append hlive (.cons hstep .nil)⟩
  · rw [hafter, List.append_nil]
  · rw [Rollout.record, hsteps, List.append_assoc]

theorem Grounded.push {event : Event A} (h : Grounded u hexdigest scope pending s)
    (hevent : event.ofExecutor = false) : Grounded u hexdigest scope pending (s.push event) := by
  obtain ⟨before, after, xs, lived, liveSteps, hs, hbefore, hserved, hget, hafter, hxs, hsteps, hlive⟩ := h
  refine ⟨before, after ++ [event], xs, lived, liveSteps, ?_, hbefore, hserved, ?_, ?_, hxs, hsteps, hlive⟩
  · rw [Rollout.push, hs, List.append_assoc]
  · intro event' hevent'
    rcases List.mem_append.mp hevent' with hevent' | hevent'
    · exact hget event' hevent'
    · rw [List.mem_singleton.mp hevent']
      cases event <;> first | rfl | cases hevent
  · have hreply : replies [event] = [] := by
      rw [replies, List.filterMap_cons_none (Event.reply?_of_loop hevent), List.filterMap_nil]
    rw [replies_append, hafter, hreply, List.append_nil]

theorem ServedFrom.tail {trace trace' : List (Event A)} {before : List EnvAction} {x : ServedStep}
    {xs : List ServedStep} (h : ServedFrom hexdigest scope trace before (x :: xs))
    (hgrown : trace <+: trace') :
    ServedFrom hexdigest scope trace' (before ++ [x.envAction]) xs := by
  intro first y hfirst
  have := (h (x :: first) y ((List.prefix_cons_inj x).mpr hfirst)).mono hgrown
  simpa using this

theorem ServedFrom.head {trace : List (Event A)} {before : List EnvAction} {x : ServedStep}
    {xs : List ServedStep} (h : ServedFrom hexdigest scope trace before (x :: xs)) :
    ServedAt hexdigest scope trace (before ++ [x.envAction]) x.result :=
  h [] x ⟨xs, rfl⟩

theorem ServedFrom.servedAll {xs : List ServedStep} (h : ServedFrom hexdigest scope s.trace [] xs) :
    ServedAll hexdigest scope s.trace (xs.map ServedStep.envAction) := by
  intro before action hbefore
  obtain ⟨ys, hys, heq⟩ := List.prefix_map_iff.mp hbefore
  obtain ⟨first, x, rfl⟩ : ∃ first x, ys = first ++ [x] := by
    rcases List.eq_nil_or_concat ys with rfl | ⟨first, x, rfl⟩
    · simp at heq
    · exact ⟨first, x, List.concat_eq_append⟩
  refine ⟨x.result, ?_⟩
  rw [heq]
  exact h first x hys

end Facts

/-! ## More readings -/

section Push

variable {A σ : Type} (s : Rollout A σ) (event : Event A) (step : ChainStep)

@[simp]
theorem Rollout.push_trace : (s.push event).trace = s.trace ++ [event] := rfl

@[simp]
theorem Rollout.push_executor : (s.push event).executor = s.executor := rfl

@[simp]
theorem Rollout.push_actionChain : (s.push event).actionChain = s.actionChain := rfl

@[simp]
theorem Rollout.record_trace : (s.record step).trace = s.trace := rfl

@[simp]
theorem Rollout.record_executor : (s.record step).executor = s.executor := rfl

@[simp]
theorem Rollout.record_actionChain : (s.record step).actionChain = s.actionChain ++ [step] := rfl

end Push

section Live

variable {A : Type} {u : Unicode} {hexdigest : Hexdigest} {scope : ReplayScope} {action : EnvAction}
  {s s' : Rollout A ReplayCache} {events : List (Event A)}
  {reply : EnvAction × Option StepResult} {step : ChainStep}

theorem Hot.settled (h : Hot u hexdigest scope s) : Settled u hexdigest scope s := by
  refine ⟨h.lawful, Or.inr (Or.inr ⟨h.grounded, ?_⟩)⟩
  rw [h.requested, h.grounded.calls_eq]
  exact (List.append_nil _).symm

theorem Settled.always (h : Settled u hexdigest scope s) : Always u hexdigest scope s :=
  ⟨h.1, h.2.imp_right (Or.imp_right fun hgrounded ↦ ⟨[], by simp, hgrounded⟩)⟩

/-- What a live execution adds to a step that is ready for it. -/
structure Executes (u : Unicode) (hexdigest : Hexdigest) (scope : ReplayScope)
    (reply : EnvAction × Option StepResult) (s s' : Rollout A ReplayCache) : Prop where
  lawful : Lawful u hexdigest scope s'.trace
  chain : s'.actionChain = s.actionChain
  digest : s'.executor.digest = s.executor.digest
  live : s'.executor.live = s.executor.live
  trace : ∃ events, s'.trace = s.trace ++ events ∧ requests events = [] ∧
    replies events = [reply] ∧ ∀ event ∈ events, event.isGet = false

theorem Executes.grounded (h : Executes u hexdigest scope reply s s')
    (hready : Ready u hexdigest scope action s) : Grounded u hexdigest scope [reply] s' := by
  obtain ⟨events, htrace, -, hreplies, hget⟩ := h.trace
  rw [← hreplies]
  exact hready.grounded.append htrace h.chain hget

/-- What was requested has been executed. -/
theorem Executes.requested (h : Executes u hexdigest scope reply s s')
    (hready : Ready u hexdigest scope reply.1 s) : requests s'.trace = calls s'.trace := by
  obtain ⟨events, htrace, hrequests, -, -⟩ := h.trace
  rw [(h.grounded hready).calls_eq, htrace, requests_append, hrequests, List.append_nil,
    hready.requested, h.chain]
  rfl

theorem Executes.always (h : Executes u hexdigest scope reply s s')
    (hready : Ready u hexdigest scope reply.1 s) : Always u hexdigest scope s' :=
  ⟨h.lawful, Or.inr (Or.inr ⟨[reply], by simp, h.grounded hready, h.requested hready⟩)⟩

theorem Executes.settled (h : Executes u hexdigest scope reply s s')
    (hready : Ready u hexdigest scope reply.1 s) (hstep : LiveStep u reply step) :
    Settled u hexdigest scope (s'.record step) :=
  ⟨h.lawful, Or.inr (Or.inr ⟨(h.grounded hready).record hstep, h.requested hready⟩)⟩

/-- A step that was executed live leaves the episode hot. -/
theorem Executes.hot (h : Executes u hexdigest scope reply s s')
    (hready : Ready u hexdigest scope reply.1 s) (hstep : LiveStep u reply step)
    (hrecordable : s'.executor.recordableChain = true → s.executor.recordableChain = true ∧
      ∃ result, LivedAt u s'.trace (s.actionChain.map ChainStep.envAction) reply.1 result) :
    Hot u hexdigest scope (s'.record step) := by
  obtain ⟨events, htrace, hrequests, hreplies, -⟩ := h.trace
  have hactions : (s'.record step).actionChain.map ChainStep.envAction =
      s.actionChain.map ChainStep.envAction ++ [reply.1] := by
    rw [Rollout.record_actionChain, h.chain, List.map_append, List.map_singleton, hstep.envAction]
  have hgrounded := (h.grounded hready).record hstep
  refine ⟨h.lawful, ?_, ?_, hgrounded, ?_, ?_, ?_⟩
  · rw [hactions, Rollout.record_trace, htrace, requests_append, hrequests, List.append_nil,
      hready.requested]
  · rw [hgrounded.calls_eq, hactions]
    simp
  · rw [hactions, Rollout.record_executor, h.digest, hready.digest]
  · rw [Rollout.record_executor, h.live, hready.live]
  · intro hrecords
    have hgrown : s.trace <+: s'.trace := ⟨events, htrace.symm⟩
    obtain ⟨hbefore, hlived⟩ := hrecordable hrecords
    obtain ⟨hpassed, hunmarked⟩ := hready.recordable hbefore
    rw [hactions]
    refine (hpassed.mono hgrown).snoc (Or.inr ⟨hlived, ?_⟩)
    rw [List.length_map]
    exact hunmarked.imp (fun h ↦ h.mono hgrown) fun h ↦ h.mono hgrown

/-- The calls of a step that is ready are its chain. -/
theorem Ready.calls_eq (h : Ready u hexdigest scope action s) :
    calls s.trace = s.actionChain.map ChainStep.envAction := by
  rw [h.grounded.calls_eq]
  exact List.append_nil _

/-- What is recorded after a live execution. -/
theorem Ready.recorded {result : StepResult} (h : Ready u hexdigest scope action s)
    (hrecordable : s.executor.recordableChain = true) (events : List (Event A))
    {trace : List (Event A)} (htrace : trace = s.trace ++ events) (hrequests : requests events = [])
    (hlived : LivedAt u trace (s.actionChain.map ChainStep.envAction) action result) :
    Recorded u hexdigest scope trace (s.actionChain.map ChainStep.envAction) action result := by
  have hgrown : s.trace <+: trace := ⟨events, htrace.symm⟩
  obtain ⟨hpassed, hunmarked⟩ := h.recordable hrecordable
  refine ⟨?_, hpassed.mono hgrown, hlived, ?_⟩
  · rw [htrace, requests_append, hrequests, List.append_nil, h.requested]
  · rw [List.length_map]
    exact hunmarked.imp (fun h ↦ h.mono hgrown) fun h ↦ h.mono hgrown

theorem LiveStep.returned (action : EnvAction) (result : StepResult) :
    LiveStep u (action, some result)
      ⟨action, u.scrubStepResult action.command? result, false⟩ :=
  ⟨rfl, fun _ ↦ ⟨result, rfl, rfl⟩, by simp⟩

theorem LiveStep.cut (action : EnvAction) (answer : Option StepResult) :
    LiveStep u (action, answer) ⟨action, u.scrubStepResult action.command? .timedOut, true⟩ :=
  ⟨rfl, by simp, fun _ ↦ rfl⟩

/-- The store is written after a live execution. -/
theorem Executes.put {key value : String} {answer : Answer Unit}
    (h : Executes u hexdigest scope reply s s')
    (hput : EventOk u hexdigest scope s'.trace (.put key value answer)) :
    Executes u hexdigest scope reply s (s'.push (.put key value answer)) := by
  obtain ⟨events, htrace, hrequests, hreplies, hget⟩ := h.trace
  refine ⟨h.lawful.push hput, h.chain, h.digest, h.live, events ++ [.put key value answer], ?_, ?_, ?_,
    ?_⟩
  · rw [Rollout.push_trace, htrace, List.append_assoc]
  · rw [requests_append, hrequests]
    rfl
  · rw [replies_append, hreplies]
    rfl
  · intro event hevent
    rcases List.mem_append.mp hevent with hevent | hevent
    · exact hget event hevent
    · rw [List.mem_singleton.mp hevent]
      rfl

/-- What a live execution that returned leaves of a step, whether or not it is recorded. -/
theorem Executes.keeps {result : StepResult} (result' : StepResult)
    (h : Executes u hexdigest scope (action, some result) s s')
    (hready : Ready u hexdigest scope action s)
    (hrecordable : s'.executor.recordableChain = true → s.executor.recordableChain = true ∧
      ∃ result, LivedAt u s'.trace (s.actionChain.map ChainStep.envAction) action result) :
    let s'' := s'.record ⟨action, u.scrubStepResult action.command? result, false⟩
    Settled u hexdigest scope s'' ∧ (result'.terminal = false → Hot u hexdigest scope s'') :=
  ⟨h.settled hready (.returned action result),
    fun _ ↦ h.hot hready (.returned action result) hrecordable⟩

end Live

/-! ## A step that is asked for -/

section Asks

variable {A : Type} {u : Unicode} {hexdigest : Hexdigest} {scope : ReplayScope}
  {xs : List ServedStep} {action : EnvAction} {s s' : Rollout A ReplayCache}
  {event : Event A} {events : List (Event A)}

/-- A store access is neither a request nor a call of the environment. -/
theorem unread_of_isStore (h : ∀ event ∈ events, event.isStore = true) :
    requests events = [] ∧ calls events = [] := by
  constructor
  all_goals
    refine List.filterMap_eq_nil_iff.mpr fun event hevent ↦ ?_
    have := h event hevent
    cases event <;> first | rfl | cases this

theorem ofExecutor_of_requested (h : event.requested? = some action) : event.ofExecutor = false := by
  cases event <;> first | rfl | cases h

/-- What a request and store accesses after it add to the readings. -/
theorem readings_of_request (h : event.requested? = some action)
    (hevents : ∀ event ∈ events, event.isStore = true) :
    requests (event :: events) = [action] ∧ calls (event :: events) = [] := by
  obtain ⟨hrequests, hcalls⟩ := unread_of_isStore hevents
  rw [← List.singleton_append, requests_append, calls_append, hrequests, hcalls]
  refine ⟨by simp [requests, h], ?_⟩
  rw [List.append_nil]
  cases event <;> first | rfl | cases h

/-- A state in a step before which everything was served: a request, then accesses to the store. -/
structure Asks (hexdigest : Hexdigest) (event : Event A) (events : List (Event A)) (action : EnvAction)
    (s s' : Rollout A ReplayCache) : Prop where
  request : event.requested? = some action
  store : ∀ event ∈ events, event.isStore = true
  trace : s'.trace = s.trace ++ event :: events
  chain : s'.actionChain = s.actionChain
  digest : s'.executor.digest = advanceDigest hexdigest s.executor.digest action
  replayed : s'.executor.replayed = s.executor.replayed
  live : s'.executor.live = s.executor.live

/-- One more access to the store. -/
theorem Asks.access (h : Asks hexdigest event events action s s') (s'' : Rollout A ReplayCache)
    {access : Event A} (hstore : access.isStore = true)
    (htrace : s''.trace = s'.trace ++ [access]) (hchain : s''.actionChain = s'.actionChain)
    (hdigest : s''.executor.digest = s'.executor.digest)
    (hreplayed : s''.executor.replayed = s'.executor.replayed)
    (hlive : s''.executor.live = s'.executor.live) :
    Asks hexdigest event (events ++ [access]) action s s'' where
  request := h.request
  store := List.forall_mem_append.mpr ⟨h.store, by simpa using hstore⟩
  trace := by rw [htrace, h.trace, List.append_assoc, List.cons_append]
  chain := hchain.trans h.chain
  digest := hdigest.trans h.digest
  replayed := hreplayed.trans h.replayed
  live := hlive.trans h.live

theorem Asks.requested (h : Asks hexdigest event events action s s')
    (hcold : Cold u hexdigest scope xs s) :
    requests s'.trace = xs.map ServedStep.envAction ++ [action] := by
  rw [h.trace, requests_append, hcold.requested, (readings_of_request h.request h.store).1]

theorem Asks.unexecuted (h : Asks hexdigest event events action s s')
    (hcold : Cold u hexdigest scope xs s) : calls s'.trace = [] := by
  rw [h.trace, calls_append, hcold.unexecuted, (readings_of_request h.request h.store).2]
  rfl

theorem Asks.waiting (h : Asks hexdigest event events action s s')
    (hcold : Cold u hexdigest scope xs s) (hlawful : Lawful u hexdigest scope s'.trace)
    (hrecordable : s'.executor.recordableChain = true →
      Unmarked hexdigest scope s'.trace (xs.map ServedStep.envAction ++ [action])) :
    Waiting u hexdigest scope xs action s' where
  lawful := hlawful
  requested := h.requested hcold
  unexecuted := h.unexecuted hcold
  chain := h.chain.trans hcold.chain
  served first x hfirst := (hcold.served first x hfirst).mono ⟨_, h.trace.symm⟩
  digest := by rw [h.digest, hcold.digest, chainDigest_snoc]
  replayed := h.replayed.trans hcold.replayed
  live := h.live.trans hcold.live
  recordable := hrecordable

theorem unexecuted_settled (hlawful : Lawful u hexdigest scope s.trace) (hcalls : calls s.trace = [])
    (step : ChainStep) : Settled u hexdigest scope (s.record step) := ⟨hlawful, Or.inl hcalls⟩

theorem unexecuted_always (hlawful : Lawful u hexdigest scope s.trace)
    (hcalls : calls s.trace = []) : Always u hexdigest scope s := ⟨hlawful, Or.inl hcalls⟩

/-- Going live may break off. -/
theorem interrupted (hchain : s.actionChain = xs.map (ServedStep.step u))
    (hcalls : calls s.trace <+: xs.map ServedStep.envAction) : Interrupted u s :=
  ⟨xs, [], by rw [hchain, List.append_nil], by simp, by simp, hcalls⟩

theorem interrupted_record (hchain : s.actionChain = xs.map (ServedStep.step u))
    (hcalls : calls s.trace <+: xs.map ServedStep.envAction) (action : EnvAction)
    (result : StepResult) : Interrupted u (s.record ⟨action, result, true⟩) :=
  ⟨xs, [_], by rw [Rollout.record_actionChain, hchain], by simp, by simp, hcalls⟩

theorem Between.settled (h : Between u hexdigest scope s) : Settled u hexdigest scope s := by
  rcases h with ⟨xs, hcold⟩ | hhot
  · exact ⟨hcold.lawful, Or.inl hcold.unexecuted⟩
  · exact hhot.settled

/-- A request between two steps of a hot episode. -/
theorem Hot.ready (h : Hot u hexdigest scope s) (s' : Rollout A ReplayCache)
    (hevent : event.requested? = some action) (htrace : s'.trace = s.trace ++ [event])
    (hchain : s'.actionChain = s.actionChain)
    (hdigest : s'.executor.digest = advanceDigest hexdigest s.executor.digest action)
    (hlive : s'.executor.live = s.executor.live)
    (hrecordable : s'.executor.recordableChain = s.executor.recordableChain) :
    Ready u hexdigest scope action s' := by
  have hgrown : s.trace <+: s'.trace := ⟨[event], htrace.symm⟩
  have hloop := ofExecutor_of_requested hevent
  have hgrounded : Grounded u hexdigest scope [] s' := by
    have hreply : replies [event] = [] := by
      rw [replies, List.filterMap_cons_none (Event.reply?_of_loop hloop), List.filterMap_nil]
    rw [← hreply]
    refine h.grounded.append htrace hchain ?_
    intro e he
    rw [List.mem_singleton.mp he]
    cases event <;> first | rfl | cases hloop
  refine ⟨?_, ?_, hgrounded, ?_, hlive.trans h.live, fun hrecords ↦ ⟨?_, Or.inr ?_⟩⟩
  · rw [htrace]
    exact h.lawful.push (.other event (Event.isStore_of_loop hloop))
  · rw [htrace, requests_append, h.requested, hchain]
    simp [requests, hevent]
  · rw [hdigest, h.digest, hchain, chainDigest_snoc]
  · rw [hchain]
    exact (h.recordable (hrecordable ▸ hrecords)).mono hgrown
  · -- the environment was called before this step was requested
    obtain ⟨call, hcall⟩ := List.exists_mem_of_ne_nil _ h.executed
    obtain ⟨event', hmem, hcall⟩ := List.mem_filterMap.mp hcall
    obtain ⟨before, after, hsplit⟩ := List.append_of_mem hmem
    refine ⟨before, event', after ++ [event], ?_, by rw [hcall]; rfl, ?_⟩
    · rw [htrace, hsplit, List.append_assoc, List.cons_append]
    · have hlength := congrArg List.length h.requested
      rw [hsplit, requests_append, List.length_append, List.length_map] at hlength
      rw [hchain]
      omega

/-- A step that was served leaves the episode cold. -/
theorem Cold.snoc {action : RunAction} {result : StepResult}
    (hcold : Cold u hexdigest scope xs s) (s'' : Rollout A ReplayCache)
    (hasks : Asks hexdigest event events (.run action) s s')
    (hlawful : Lawful u hexdigest scope s'.trace)
    (hrecordable : s'.executor.recordableChain = true)
    (hserved : ServedAt hexdigest scope s'.trace (xs.map ServedStep.envAction ++ [.run action]) result)
    (htrace : s''.trace = s'.trace)
    (hchain : s''.actionChain = s'.actionChain ++
      [⟨.run action, u.scrubStepResult (some action.command) result, false⟩])
    (hexecutor : s''.executor = { s'.executor with
      replayed := s'.executor.replayed ++ [⟨action,
        stepKey hexdigest scope (xs.map ServedStep.envAction ++ [.run action]),
        u.scrubbedHash hexdigest.digest action.command result⟩] }) :
    Cold u hexdigest scope (xs ++ [⟨action, result⟩]) s'' where
  lawful := by rwa [htrace]
  requested := by
    rw [htrace, hasks.requested hcold, List.map_append]
    rfl
  unexecuted := by rw [htrace, hasks.unexecuted hcold]
  chain := by
    rw [hchain, hasks.chain, hcold.chain, List.map_append]
    rfl
  served := by
    have hgrown : s.trace <+: s'.trace := ⟨_, hasks.trace.symm⟩
    rw [htrace]
    intro first x hfirst
    rcases prefix_snoc_cases hfirst with hfirst | ⟨rfl, rfl⟩
    · exact (hcold.served first x hfirst).mono hgrown
    · rw [List.nil_append, List.map_append]
      exact hserved
  digest := by
    rw [hexecutor, List.map_append, List.map_singleton, chainDigest_snoc]
    exact hasks.digest.trans (by rw [hcold.digest]; rfl)
  replayed := by
    rw [hexecutor, ServedStep.replayedFrom_snoc]
    exact congrArg (· ++ _) (hasks.replayed.trans hcold.replayed)
  live := by
    rw [hexecutor]
    exact hasks.live.trans hcold.live
  recordable := by
    rw [hexecutor]
    exact hrecordable

end Asks

/-! ## The loop's own events -/

section Loop

variable {A : Type} {u : Unicode} {hexdigest : Hexdigest} {scope : ReplayScope}
  {s : Rollout A ReplayCache} {event : Event A} {xs : List ServedStep}

theorem calls_push {σ : Type} {s : Rollout A σ} (h : event.ofExecutor = false) :
    calls (s.push event).trace = calls s.trace := by
  rw [Rollout.push_trace, calls_append]
  cases event <;> first | exact List.append_nil _ | cases h

theorem requests_push (h : event.requested? = none) :
    requests (s.push event).trace = requests s.trace := by
  rw [Rollout.push_trace, requests_append]
  simp [requests, h]

theorem lawful_push (h : event.ofExecutor = false) (hlawful : Lawful u hexdigest scope s.trace) :
    Lawful u hexdigest scope (s.push event).trace :=
  hlawful.push (.other event (Event.isStore_of_loop h))

theorem Cold.push (h : Cold u hexdigest scope xs s) (hloop : event.ofExecutor = false)
    (hrequest : event.requested? = none) : Cold u hexdigest scope xs (s.push event) where
  lawful := lawful_push hloop h.lawful
  requested := by rw [requests_push hrequest, h.requested]
  unexecuted := by rw [calls_push hloop, h.unexecuted]
  chain := h.chain
  served first x hfirst := (h.served first x hfirst).mono ⟨_, rfl⟩
  digest := h.digest
  replayed := h.replayed
  live := h.live
  recordable := h.recordable

theorem Hot.push (h : Hot u hexdigest scope s) (hloop : event.ofExecutor = false)
    (hrequest : event.requested? = none) : Hot u hexdigest scope (s.push event) where
  lawful := lawful_push hloop h.lawful
  requested := by rw [requests_push hrequest, h.requested, Rollout.push_actionChain]
  executed := by rw [calls_push hloop]; exact h.executed
  grounded := h.grounded.push hloop
  digest := h.digest
  live := h.live
  recordable hrecordable := (h.recordable hrecordable).mono ⟨_, rfl⟩

theorem Between.push (h : Between u hexdigest scope s) (hloop : event.ofExecutor = false)
    (hrequest : event.requested? = none) : Between u hexdigest scope (s.push event) := by
  rcases h with ⟨xs, hcold⟩ | hhot
  · exact Or.inl ⟨xs, hcold.push hloop hrequest⟩
  · exact Or.inr (hhot.push hloop hrequest)

theorem Interrupted.push (h : Interrupted u s) (hloop : event.ofExecutor = false) :
    Interrupted u (s.push event) := by
  obtain ⟨xs, tail, hchain, hlength, htail, hcalls⟩ := h
  exact ⟨xs, tail, hchain, hlength, htail, by rwa [calls_push hloop]⟩

theorem Settled.push (h : Settled u hexdigest scope s) (hloop : event.ofExecutor = false)
    (hrequest : event.requested? = none) : Settled u hexdigest scope (s.push event) := by
  refine ⟨lawful_push hloop h.1, ?_⟩
  rcases h.2 with hcalls | hinterrupted | ⟨hgrounded, hrequested⟩
  · exact Or.inl (by rw [calls_push hloop, hcalls])
  · exact Or.inr (Or.inl (hinterrupted.push hloop))
  · exact Or.inr (Or.inr ⟨hgrounded.push hloop,
      by rw [requests_push hrequest, calls_push hloop, hrequested]⟩)

theorem Always.push (h : Always u hexdigest scope s) (hloop : event.ofExecutor = false)
    (hrequest : event.requested? = none) : Always u hexdigest scope (s.push event) := by
  refine ⟨lawful_push hloop h.1, ?_⟩
  rcases h.2 with hcalls | hinterrupted | ⟨pending, hlength, hgrounded, hrequested⟩
  · exact Or.inl (by rw [calls_push hloop, hcalls])
  · exact Or.inr (Or.inl (hinterrupted.push hloop))
  · exact Or.inr (Or.inr ⟨pending, hlength, hgrounded.push hloop,
      by rw [requests_push hrequest, calls_push hloop, hrequested]⟩)

end Loop

end HarnessTraining
