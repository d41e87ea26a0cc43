import HarnessTraining.Replay.Completeness
import HarnessTraining.Rollout.Mirroring

/-!
# Replay refines live execution

A rollout under the step cache and a live one, of the same policy on the same environment.  The step
cache executes nothing until it has to, then executes the served steps again, and is live from then on;
the loop cannot tell.

* `mirrors_replay` — a step of the cache comes to what the live step comes to.
* `Shared.refines_live` — so does the whole rollout, if it ends without a drift.
-/

set_option autoImplicit false

namespace HarnessTraining

open StateExcept SharedStore

/-! ## What nothing disturbs -/

/-- A deadline has fired. -/
def Event.cut {A : Type} : Event A → Bool
  | .reset (.error .cancelled) | .provision (.error .cancelled) | .execute _ (.error .cancelled)
  | .verify (.error .cancelled) | .writeVerifyArtifacts _ (.error .cancelled)
  | .get _ (.error .cancelled) | .put _ _ (.error .cancelled) | .act (.deadline _) => true
  | _ => false

section Traces

variable {A : Type} {env : HistoryEnv} {hexdigest : Hexdigest} {scope : ReplayScope}
  {trace trace' : List (Event A)}

/-- No deadline fires. -/
def Undisturbed (trace : List (Event A)) : Prop := ∀ event ∈ trace, event.cut = false

theorem Undisturbed.mono (h : Undisturbed trace') (hgrown : trace <+: trace') : Undisturbed trace :=
  fun event hevent ↦ h event (hgrown.subset hevent)

theorem Stays.mono (h : Stays trace') (hgrown : trace <+: trace') : Stays trace := by
  obtain ⟨more, rfl⟩ := hgrown
  rintro before after key text answer rfl
  exact h before (after ++ more) key text answer (by rw [List.append_assoc, List.cons_append])

/-- The artifacts of a served verdict are written. -/
def Written (trace : List (Event A)) : Prop :=
  ∀ result error, .writeVerifyArtifacts result (.error (.raised error)) ∉ trace

/-- The environment is brought up. -/
def Provisioned (trace : List (Event A)) : Prop := ∀ error, .provision (.error (.raised error)) ∉ trace

/-- What a replayed rollout builds on. -/
structure Dependable (env : HistoryEnv) (hexdigest : Hexdigest) (scope : ReplayScope)
    (trace : List (Event A)) : Prop where
  truthful : Truthful env hexdigest scope trace
  stays : Stays trace
  undisturbed : Undisturbed trace
  written : Written trace

theorem Dependable.mono (h : Dependable env hexdigest scope trace') (hgrown : trace <+: trace') :
    Dependable env hexdigest scope trace where
  truthful := h.truthful.mono hgrown
  stays := h.stays.mono hgrown
  undisturbed := h.undisturbed.mono hgrown
  written result error hmem := h.written result error (hgrown.subset hmem)

/-- What a live rollout builds on. -/
structure Eager (trace : List (Event A)) : Prop where
  undisturbed : Undisturbed trace
  provisioned : Provisioned trace

theorem Eager.mono (h : Eager trace') (hgrown : trace <+: trace') : Eager trace where
  undisturbed := h.undisturbed.mono hgrown
  provisioned error hmem := h.provisioned error (hgrown.subset hmem)

end Traces

/-! ## Cut short -/

section Cut

variable {A σ : Type} {world : World A}

/-- A cancellation comes with a call that was cut short. -/
def CutShort (error : LoopError) (s : Rollout A σ) : Prop := error = .cancelled → ¬Undisturbed s.trace

theorem CutShort.push {error : LoopError} {s : Rollout A σ} {event : Event A} (h : event.cut = true) :
    CutShort error (s.push event) := by
  intro _ hundisturbed
  have hevent := hundisturbed event (List.mem_append_right _ List.mem_cons_self)
  rw [h] at hevent
  cases hevent

theorem CutShort.of_ne {error : LoopError} {s : Rollout A σ} (h : error ≠ .cancelled) :
    CutShort error s :=
  fun hcancelled ↦ absurd hcancelled h

theorem cutShort_execute (action : EnvAction) :
    RaisesIn CutShort (executeEnvAction (σ := σ) world action) := by
  intro s
  cases action with
  | run action =>
    rw [ReplayCache.wp_executeRun]
    exact ⟨fun _ _ ↦ trivial, fun _ ↦ .push rfl, fun error _ ↦ .of_ne (ReplayCache.crossing_ne_cancelled error)⟩
  | verify =>
    rw [ReplayCache.wp_executeVerify]
    exact ⟨fun _ _ ↦ trivial, fun _ ↦ .push rfl, fun error _ ↦ .of_ne (ReplayCache.crossing_ne_cancelled error)⟩

namespace ReplayCache

/-- Only an access that was cut short cancels an operation of the cache. -/
theorem accesses_cutShort : Accesses world fun _ m ↦ RaisesIn (CutShort (A := A)) m where
  pure a := .pure a
  throw _ h := .throw fun _ ↦ .of_ne h
  bind hm hf := .bind hm hf
  get _ := trivial
  update _ _ := trivial
  cacheGet key s := by
    rw [wp_cacheGet]
    exact ⟨fun _ _ ↦ trivial, fun _ ↦ .push rfl, fun _ _ ↦ trivial⟩
  cachePut key value s := by
    rw [wp_cachePut]
    exact ⟨fun _ ↦ trivial, fun _ ↦ .push rfl, fun _ _ ↦ trivial⟩
  execute := cutShort_execute
  elapsed _ := trivial
  writeVerifyArtifacts result m hm s := by
    rw [wp_bind, wp_perform, wp_bind, Answer.wp_orRaise]
    refine ⟨fun _ _ ↦ hm _, fun hcancelled ↦ ?_, fun error _ ↦ .of_ne ?_⟩
    · rw [hcancelled]
      exact .push rfl
    · cases error <;> simp [EnvError.raw]

end ReplayCache

end Cut

/-! ## In step -/

section InStep

variable {A : Type} {u : Unicode} {hexdigest : Hexdigest} {scope : ReplayScope} {env : HistoryEnv}
  {world world' : World A} {s : Rollout A ReplayCache} {t : Rollout A Unit}

/-- What the refinement does not speak of: rollouts that are disturbed, and a drift. -/
def replayExcuses (env : HistoryEnv) (hexdigest : Hexdigest) (scope : ReplayScope) :
    Excuses (Rollout A ReplayCache) (Rollout A Unit) LoopError where
  lost s := ¬Dependable env hexdigest scope s.trace
  lost' t := ¬Eager t.trace
  escapes error := ∃ actionIndex diagnostic, error = .executionDrift actionIndex diagnostic

/-- A replayed rollout and a live one between two steps: the live one has executed the chain. -/
structure InStep (u : Unicode) (hexdigest : Hexdigest) (scope : ReplayScope)
    (s : Rollout A ReplayCache) (t : Rollout A Unit) : Prop where
  agree : Agree s t
  between : ReplayCache.Assuming u hexdigest scope (Between u hexdigest scope) s
  executed : calls t.trace = t.actionChain.map ChainStep.envAction

theorem InStep.keepsPace : KeepsPace (InStep (A := A) u hexdigest scope) where
  agree _ _ h := h.agree
  push _ _ event hloop hrequest h :=
    ⟨h.agree.push event, h.between.push hloop fun hs ↦ hs.push hloop hrequest,
      (calls_push hloop).trans h.executed⟩

theorem ofExecutor_of_reply {event : Event A} {reply : EnvAction × Option StepResult}
    (h : event.reply? = some reply) : event.ofExecutor = true := by
  cases event <;> first | rfl | cases h

theorem seen_ofExecutor {events : List (Event A)} (h : ∀ event ∈ events, event.ofExecutor = true) :
    seen events = [] := by
  refine List.filter_eq_nil_iff.mpr fun event hevent ↦ ?_
  simp [h event hevent]

/-- What the executors add is not seen. -/
theorem agree_extends {s' : Rollout A ReplayCache} (h : Agree s t)
    (hextends : ReplayCache.Extends s s') : Agree s' t := by
  obtain ⟨events, htrace, hchain, hevents⟩ := hextends
  refine ⟨?_, hchain.trans h.actionChain⟩
  rw [htrace, seen_append, seen_ofExecutor hevents, List.append_nil, h.seen]

theorem agree_executed {event : Event A} (h : Agree s t) (hevent : event.ofExecutor = true) :
    Agree s (t.push event) := by
  have hunseen : seen [event] = [] := seen_ofExecutor (List.forall_mem_singleton.mpr hevent)
  refine ⟨?_, h.actionChain⟩
  rw [Rollout.push_trace, seen_append, hunseen, List.append_nil, h.seen]

theorem loses_replay : Loses (ReplayCache.executor u hexdigest scope world)
    fun s ↦ ¬Dependable env hexdigest scope s.trace := by
  have hgrown : ∀ (s s' : Rollout A ReplayCache), s.trace <+: s'.trace →
      ¬Dependable env hexdigest scope s.trace → ¬Dependable env hexdigest scope s'.trace :=
    fun _ _ hgrown hs hs' ↦ hs (hs'.mono hgrown)
  have hallows : ReplayCache.Allows world fun s s' ↦
      ¬Dependable env hexdigest scope s.trace → ¬Dependable env hexdigest scope s'.trace :=
    ⟨fun _ ↦ id, fun _ _ _ h h' hs ↦ h' (h hs), fun _ _ ↦ id, fun _ s _ _ ↦ hgrown s _ ⟨_, rfl⟩⟩
  exact ⟨fun s _ ↦ hgrown s _ ⟨_, rfl⟩, fun _ _ hs ↦ hs, .pure _, hallows.accesses.stepRun,
    hallows.accesses.prepareSubmit, hallows.accesses.stepVerify⟩

theorem loses_eager : Loses (liveStepExecutor world) fun t ↦ ¬Eager t.trace :=
  loses_live (fun _ _ hs hs' ↦ hs (hs'.mono ⟨_, rfl⟩)) fun _ _ hs ↦ hs

/-- A faithful step of the cache comes to what the live step comes to. -/
theorem coupledStep_replay {settled always : Rollout A ReplayCache → Prop} {action : EnvAction}
    {step : LoopM A ReplayCache StepResult} (hlive : RunsOn env world')
    (hkeeps : KeepsStep u (ReplayCache.Assuming u hexdigest scope (Between u hexdigest scope)) settled
      always action step s)
    (hextends : Preserves ReplayCache.Extends step) (hcut : RaisesIn CutShort step)
    (hfaithful : ReplayCache.Faithful env hexdigest scope (s.actionChain.map ChainStep.envAction) action
      step s)
    (hagree : Agree s t) (hexecuted : calls t.trace = t.actionChain.map ChainStep.envAction) :
    CoupledStep u (replayExcuses env hexdigest scope) (InStep u hexdigest scope) action step
      (executeEnvAction world' action) s t := by
  have hstep := wp_and (hlive.execute_spec action t) (cutShort_execute action t)
  rw [hexecuted, ← hagree.actionChain] at hstep
  refine wp_mono (wp_and (wp_and hkeeps hfaithful) (wp_and (hextends s) (hcut s))) ?_ ?_
  · rintro result s' ⟨⟨⟨-, hbetween⟩, hreply⟩, hextends, -⟩
    by_cases hs' : Dependable env hexdigest scope s'.trace
    · have hreply := hreply hs'.truthful
      refine Or.inr (wp_mono hstep ?_ ?_)
      · rintro result' _ ⟨⟨hreply', event, hevent, rfl⟩, -⟩
        obtain rfl : result = result' := Except.ok.inj (hreply.symm.trans hreply')
        have hagree' := agree_executed (agree_extends hagree hextends) (ofExecutor_of_reply hevent)
        exact Or.inr ⟨rfl, hagree', fun hrunning ↦
          ⟨hagree'.record _, hbetween hrunning, calls_executed hexecuted hevent⟩⟩
      · rintro error t' ⟨⟨hcut | ⟨raised, hraised, -⟩, -⟩, hcutShort⟩
        · exact fun ht' ↦ hcutShort hcut ht'.undisturbed
        · cases hreply.symm.trans hraised
    · exact Or.inl hs'
  · rintro error s' ⟨⟨-, hfaithful⟩, hextends, hcut⟩
    by_cases hs' : Dependable env hexdigest scope s'.trace
    · rcases hfaithful hs'.truthful with (hcancelled | hdrift | hlost) | ⟨raised, hraised, rfl⟩
      · exact absurd hs'.undisturbed (hcut hcancelled)
      · exact Or.inr (Or.inl hdrift)
      · exact absurd hs'.stays hlost
      refine Or.inr (Or.inr (wp_mono hstep ?_ ?_))
      · rintro result _ ⟨⟨hreply, -⟩, -⟩
        cases hreply.symm.trans hraised
      · rintro error _ ⟨⟨hcut | ⟨raised', hraised', rfl⟩, event, hevent, rfl⟩, hcutShort⟩
        · exact Or.inl fun ht' ↦ hcutShort hcut ht'.undisturbed
        · obtain rfl : raised = raised' := Except.error.inj (hraised.symm.trans hraised')
          exact Or.inr ⟨rfl, ReplayCache.crossing_ne_cancelled raised,
            agree_executed (agree_extends hagree hextends) (ofExecutor_of_reply hevent)⟩
    · exact Or.inl hs'

/-- **The step cache mirrors the live executor**, step by step. -/
theorem mirrors_replay (hruns : RunsOn env world) (hlive : RunsOn env world') :
    Mirrors u (ReplayCache.executor u hexdigest scope world) (liveStepExecutor world')
      (replayExcuses env hexdigest scope) (InStep u hexdigest scope) := by
  have hkeeps : Keeps u (ReplayCache.executor u hexdigest scope world)
      (ReplayCache.Assuming u hexdigest scope (Between u hexdigest scope))
      (ReplayCache.Assuming u hexdigest scope (Settled u hexdigest scope))
      (ReplayCache.Assuming u hexdigest scope (Always u hexdigest scope)) := ReplayCache.keeps
  have hcut : ReplayCache.Accesses world fun _ m ↦ RaisesIn (CutShort (A := A)) m :=
    ReplayCache.accesses_cutShort
  have hbetween : ∀ {s : Rollout A ReplayCache} {t : Rollout A Unit} {event : Event A},
      InStep u hexdigest scope s t → Truthful env hexdigest scope (s.push event).trace →
      Between u hexdigest scope s :=
    fun h htruth ↦ h.between.2 (Truthful.verdictsRead (htruth.mono ⟨_, rfl⟩))
  constructor
  case lost => exact loses_replay
  case lost' => exact loses_eager
  case escapes => exact fun _ h ↦ h
  case pace => exact InStep.keepsPace
  case provision =>
    intro s t h
    refine Or.inr (wp_bind.mpr (Answer.wp_orRaise.mpr ⟨?_, ?_, ?_⟩))
    · rintro ⟨⟩ -
      refine Or.inr ⟨rfl, agree_executed h.agree rfl, h.between, ?_⟩
      rw [Rollout.push_trace, calls_append, h.executed]
      exact List.append_nil _
    · intro hcancelled heager
      have hevent := heager.undisturbed _ (List.mem_append_right _ List.mem_cons_self)
      rw [hcancelled] at hevent
      cases hevent
    · intro error hraised heager
      refine heager.provisioned error (List.mem_append_right _ (List.mem_singleton.mpr ?_))
      rw [hraised]
  case stepRun =>
    intro action s t event hevent h
    refine coupledStep_replay hlive (hkeeps.stepRun action s event hevent h.between)
      (ReplayCache.preserves_stepRun action) (hcut.stepRun action) ?_ (h.agree.push event)
      ((calls_push (ofExecutor_of_requested hevent)).trans h.executed)
    exact ReplayCache.wp_truthful (ReplayCache.preserves_stepRun action) fun htruth ↦
      ReplayCache.stepRun_faithful hruns (hbetween h htruth) hevent
  case submit =>
    intro s t event hevent h
    have hfaithful : wp (ReplayCache.prepareSubmit u hexdigest scope world)
        (fun served s' ↦ Truthful env hexdigest scope s'.trace →
          ReplayCache.Faithful env hexdigest scope (s.actionChain.map ChainStep.envAction) .verify
            (served.elim (ReplayCache.stepVerify world) pure) s')
        (fun error s' ↦ Truthful env hexdigest scope s'.trace → ReplayCache.Halted s'.trace error ∨
          ∃ result raised, .writeVerifyArtifacts result (.error (.raised raised)) ∈ s'.trace)
        (s.push event) := by
      refine ReplayCache.wp_truthful ReplayCache.preserves_prepareSubmit fun htruth ↦ ?_
      exact wp_mono (ReplayCache.submit_faithful hruns (hbetween h htruth) hevent) (fun _ _ h _ ↦ h)
        fun _ _ h ↦ h
    refine wp_mono (wp_and (wp_and (hkeeps.submit s event hevent h.between) hfaithful)
      (wp_and (ReplayCache.preserves_prepareSubmit (s.push event)) (hcut.prepareSubmit (s.push event))))
      ?_ ?_
    · rintro served s' ⟨⟨hserved, hfaithful⟩, hextends, -⟩
      by_cases hs' : Dependable env hexdigest scope s'.trace
      · have hagree : Agree s' (t.push event) := agree_extends (h.agree.push event) hextends
        have hchain : s'.actionChain = s.actionChain := by
          obtain ⟨-, -, hchain, -⟩ := hextends
          exact hchain
        refine Or.inr (Or.inr (coupledStep_replay hlive hserved ?_ ?_ ?_ hagree
          ((calls_push (ofExecutor_of_requested hevent)).trans h.executed)))
        · cases served with
          | none => exact ReplayCache.Extends.allows.accesses.stepVerify
          | some result => exact .pure .refl result
        · cases served with
          | none => exact hcut.stepVerify
          | some result => exact .pure result
        · rw [hchain]
          exact hfaithful hs'.truthful
      · exact Or.inl hs'
    · rintro error s' ⟨⟨-, hfaithful⟩, -, hcut⟩
      by_cases hs' : Dependable env hexdigest scope s'.trace
      · rcases hfaithful hs'.truthful with (hcancelled | hdrift | hlost) | ⟨result, raised, hmem⟩
        · exact absurd hs'.undisturbed (hcut hcancelled)
        · exact Or.inr (Or.inl hdrift)
        · exact absurd hs'.stays hlost
        · exact absurd hmem (hs'.written result raised)
      · exact Or.inl hs'

end InStep

/-! ## The refinement -/

/-- A row that was read once can be read again. -/
def Rereads {A : Type} (trace : List (Event A)) : Prop :=
  ∀ before after key text error, trace = before ++ .get key (.error (.raised error)) :: after →
    .get key (.ok (some text)) ∉ before

/-- How a rollout under the step cache ends. -/
def ReplayedRollout.ended {A : Type} (u : Unicode) (hexdigest : Hexdigest)
    (rollout : ReplayedRollout A) : Except LoopError LoopOutcome :=
  (exec (runTaskLoop u rollout.world
    (ReplayCache.executor u hexdigest rollout.scope rollout.world) rollout.maxSteps
    rollout.stallTimeoutSec) { executor := .new hexdigest rollout.scope }).1

/-- The same rollout, live in a world. -/
def ReplayedRollout.liveIn {A : Type} (u : Unicode) (rollout : ReplayedRollout A) (world : World A) :
    Except LoopError LoopOutcome × Rollout A Unit :=
  exec (runTaskLoop u world (liveStepExecutor world) rollout.maxSteps rollout.stallTimeoutSec)
    { executor := () }

section Shared

variable {ι A : Type} [DecidableEq ι] {u : Unicode} {hexdigest : Hexdigest} {env : HistoryEnv}
  {rollouts : ι → ReplayedRollout A} {history : List (Occurrence ι (Event A))}

/-- The store does not lose a row. -/
theorem Shared.stays (h : Shared u hexdigest rollouts history) {i : ι}
    (hrereads : Rereads (projection i history)) : Stays (projection i history) := by
  intro before after key text answer htrace hread hmissed
  rcases hmissed with rfl | ⟨error, rfl⟩
  · obtain ⟨earlier, later, rfl, rfl⟩ := exists_of_projection htrace
    obtain ⟨first, rest, rfl⟩ := List.append_of_mem (mem_projection.mp hread)
    have hstored : some text = stored storeAccess first key :=
      h.store.reads first i _ (rest ++ _ :: later) key _ (List.append_assoc _ _ _) rfl
    have hlost : none = stored storeAccess (first ++ .exchange i (.get key (.ok (some text))) :: rest) key :=
      h.store.reads _ i _ later key _ rfl rfl
    rw [stored_append hstored.symm] at hlost
    cases hlost
  · exact hrereads before after key text error htrace hread

/-- **Replay refines live execution.**  A rollout under the step cache, over whatever rollouts on the
environment have recorded, ends as the live rollout of the same policy does: the loop has put the same
questions with the same answers, so the policy has observed the same, and has kept the same action
chain. -/
theorem Shared.refines_live (h : Shared u hexdigest rollouts history) {i : ι} {world : World A}
    (hended : projection i history = (rollouts i).trace u hexdigest)
    (hruns : ∀ j, (rollouts j).scope = (rollouts i).scope → RunsOn env (rollouts j).world)
    (hlive : RunsOn env world) (houtside : SameOutside (rollouts i).world world)
    (hundisturbed : Undisturbed ((rollouts i).trace u hexdigest))
    (hwritten : Written ((rollouts i).trace u hexdigest))
    (hrereads : Rereads ((rollouts i).trace u hexdigest))
    (heager : Eager ((rollouts i).liveIn u world).2.trace)
    (hdrift : ∀ actionIndex diagnostic,
      (rollouts i).ended u hexdigest ≠ .error (.executionDrift actionIndex diagnostic)) :
    ((rollouts i).liveIn u world).1 = (rollouts i).ended u hexdigest ∧
      seen ((rollouts i).liveIn u world).2.trace = seen ((rollouts i).trace u hexdigest) ∧
      ((rollouts i).liveIn u world).2.actionChain = (rollouts i).actionChain u hexdigest := by
  have hdependable : Dependable env hexdigest (rollouts i).scope ((rollouts i).trace u hexdigest) :=
    ⟨hended ▸ h.truthful i hruns, hended ▸ h.stays (hended ▸ hrereads), hundisturbed, hwritten⟩
  have hfresh : InStep (A := A) u hexdigest (rollouts i).scope
      { executor := .new hexdigest (rollouts i).scope } { executor := () } :=
    ⟨⟨rfl, rfl⟩, ReplayCache.assuming_fresh u hexdigest (rollouts i).scope, rfl⟩
  have hcoupled := coupled_runTaskLoop (mirrors_replay (hruns i rfl) hlive) houtside
    (rollouts i).maxSteps (rollouts i).stallTimeoutSec hfresh
  have hescapes : ∀ error, (rollouts i).ended u hexdigest = .error error →
      ¬(replayExcuses (A := A) env hexdigest (rollouts i).scope).escapes error := by
    rintro error herror ⟨actionIndex, diagnostic, rfl⟩
    exact hdrift actionIndex diagnostic herror
  obtain ⟨hsame, hagree⟩ := hcoupled.results (absurd hdependable) (absurd heager) hescapes
  exact ⟨hsame, hagree.seen.symm, hagree.actionChain.symm⟩

end Shared

/-! ## A submit that was served -/

namespace Served

theorem ended_served {row : String} (hrow : deserialize row = some (.ofVerify passingOutcome)) :
    ∃ outcome, (submitter (some row)).ended .ascii .spelled = .ok outcome := by
  obtain ⟨outcome, s, hexec, -⟩ := exec_of_returns (submitter_served hrow)
  exact ⟨outcome, congrArg Prod.fst hexec⟩

/-- The submit that was served ends the episode as a live one does. -/
theorem refines_live_served :
    ((submitters true).liveIn .ascii (submitter none).world).1 =
        (submitters true).ended .ascii .spelled ∧
      seen ((submitters true).liveIn .ascii (submitter none).world).2.trace =
        seen ((submitters true).trace .ascii .spelled) ∧
      ((submitters true).liveIn .ascii (submitter none).world).2.actionChain =
        (submitters true).actionChain .ascii .spelled := by
  have htrace : (submitters true).trace .ascii .spelled =
      request ++ (lookup (some submitRow) ++ ending) := (served_run (deserialize_serialize _)).1
  have hlive : ((submitters true).liveIn .ascii (submitter none).world).2.trace =
      [.reset (.ok {}), .provision (.ok ()), .policyReset {} (.ok ()), .act (.actions [()]),
        .name () (.ok "submit"), .verify (.ok passingOutcome)] ++ ending := rfl
  have hruns : ∀ served, RunsOn passingEnv (submitters served).world := by
    intro served
    cases served
    · exact runsOn_passingEnv none
    · exact runsOn_passingEnv (some submitRow)
  have hshared : Shared .ascii .spelled submitters history :=
    ⟨fun party ↦ (projection_history party) ▸ List.prefix_rfl, consistent_history⟩
  refine Shared.refines_live hshared (projection_history true) (fun served _ ↦ hruns served) (runsOn_passingEnv none) ?_ ?_ ?_ ?_ ?_ ?_
  · exact ⟨fun _ ↦ rfl, fun _ _ ↦ rfl, fun _ ↦ rfl, fun _ _ ↦ rfl, fun _ _ ↦ rfl, fun _ _ _ ↦ rfl,
      fun _ _ ↦ rfl⟩
  · rw [htrace]
    simp [Undisturbed, request, lookup, ending, Event.cut]
  · rw [htrace]
    simp [Written, request, lookup, ending]
  · rw [htrace]
    intro before after key text error hsplit
    have hmem : Event.get key (.error (.raised error)) ∈ request ++ (lookup (some submitRow) ++ ending) :=
      hsplit ▸ by simp
    simp [request, lookup, ending] at hmem
  · rw [hlive]
    constructor
    · simp [Undisturbed, ending, Event.cut]
    · simp [Provisioned, ending]
  · intro actionIndex diagnostic hdrift
    obtain ⟨outcome, houtcome⟩ := ended_served (deserialize_serialize (.ofVerify passingOutcome))
    cases houtcome.symm.trans hdrift

end Served

end HarnessTraining
