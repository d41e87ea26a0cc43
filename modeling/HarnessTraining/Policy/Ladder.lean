import HarnessTraining.Policy.Retrim

/-!
# The repair ladder

`act` asks again after a reply that it cannot use, without thinking after a reply that was cut off, and
gives up when its attempts are used up, when asking again would change nothing, or when replies are
cut off before any call for the second time in a rollout.

* `OnLadder` — what holds of an agent between its calls;
* `Climbing` — the invariant of the loop of `act`;
* `repair_ladder` — what holds of every rollout, and what every `act` in it does.
-/

set_option autoImplicit false

namespace HarnessTraining

open StateExcept

/-! ## Replies -/

/-- The reply was cut off before any call. -/
def Fitting.cutMissing (fitting : Fitting) : Bool :=
  match fitting.result with
  | .ok completion => decide (completion.toolCalls = [] ∧ completion.finishReason = some "length")
  | .error _ => false

/-- The provider rejected a call of the model. -/
def FittingError.Rejection (error : FittingError) : Prop :=
  ∃ text, error = .completion (.typed (.providerRejectedToolCall text))

theorem cutMissing_ok {fitting : Fitting} {completion : Completion}
    (h : fitting.result = .ok completion) : fitting.cutMissing = true ↔
      completion.toolCalls = [] ∧ completion.finishReason = some "length" := by
  rw [Fitting.cutMissing, h]
  exact decide_eq_true_iff

theorem cutMissing_error {fitting : Fitting} {error : FittingError}
    (h : fitting.result = .error error) : fitting.cutMissing = false := by
  rw [Fitting.cutMissing, h]

namespace ActionParser

variable {models : ArgumentModels}

/-- The action of a call. -/
def Parses (models : ArgumentModels) (call : ToolCall) (action : PolicyAction) : Prop :=
  ∃ actionName, actionName.text = call.name ∧
    ActionParser.action models actionName call.arguments = .ok action

theorem actionName?_eq_some {name : String} {actionName : ActionName}
    (h : actionName? name = some actionName) : actionName.text = name := by
  simpa using List.find?_some h

theorem offered_ok {call : ToolCall} {offer : ActionName × String}
    (h : offered models call = .ok offer) : offer.1.text = call.name ∧ offer.2 = call.arguments := by
  rw [offered] at h
  split at h
  · next actionName hname =>
    obtain rfl := Except.ok.inj h
    exact ⟨actionName?_eq_some hname, rfl⟩
  · cases h

theorem parses_of_offers : ∀ {calls : List ToolCall} {offers : List (ActionName × String)}
    {actions : List PolicyAction},
    List.Forall₂ (fun call offer ↦ offered models call = .ok offer) calls offers →
    List.Forall₂ (fun offer action ↦ ActionParser.action models offer.1 offer.2 = .ok action)
      offers actions → List.Forall₂ (Parses models) calls actions
  | _, _, _, .nil, .nil => .nil
  | _, _, _, .cons hoffer hoffers, .cons haction hactions => by
    obtain ⟨hname, harguments⟩ := offered_ok hoffer
    exact .cons ⟨_, hname, harguments ▸ haction⟩ (parses_of_offers hoffers hactions)

/-- The parsed calls, in order. -/
theorem actions_ok {completion : Completion} {actions : List PolicyAction}
    (h : ActionParser.actions models completion = .ok actions) :
    completion.toolCalls ≠ [] ∧ List.Forall₂ (Parses models) completion.toolCalls actions := by
  rw [ActionParser.actions] at h
  split at h
  · cases h
  · next hcalls =>
    obtain ⟨offers, hoffers, hactions⟩ := bind_eq_ok h
    exact ⟨hcalls, parses_of_offers (mapM_eq_ok hoffers) (mapM_eq_ok hactions)⟩

theorem mapError_ne_missing {α ε : Type} {x : Except ε α} {f : ε → ActionFault}
    (hf : ∀ e, f e ≠ .missingToolCall) : x.mapError f ≠ .error .missingToolCall := by
  cases x with
  | ok a => rintro ⟨⟩
  | error e => exact fun h ↦ hf e (Except.error.inj h)

theorem action_ne_missing (actionName : ActionName) (arguments : String) :
    ActionParser.action models actionName arguments ≠ .error .missingToolCall := by
  intro h
  rcases bind_eq_error h with hargs | ⟨args, -, h⟩
  · rw [parseArgs] at hargs
    split at hargs
    · cases hargs
    · exact mapError_ne_missing (by rintro _ ⟨⟩) hargs
  · rcases bind_eq_error h with hvalid | ⟨valid, -, h⟩
    · rw [validateArgs.eq_def] at hvalid
      split at hvalid
      · exact mapError_ne_missing (by rintro _ ⟨⟩) hvalid
      · cases hvalid
    · cases h

/-- A call is missing if and only if there is none. -/
theorem missing_iff {completion : Completion} {fault : ActionFault}
    (h : ActionParser.actions models completion = .error fault) :
    fault = .missingToolCall ↔ completion.toolCalls = [] := by
  rw [ActionParser.actions] at h
  split at h
  · next hcalls =>
    obtain rfl := Except.error.inj h
    exact iff_of_true rfl hcalls
  · next hcalls =>
    refine iff_of_false ?_ hcalls
    rintro rfl
    rcases bind_eq_error h with hoffers | ⟨offers, -, hactions⟩
    · obtain ⟨call, -, hcall⟩ := mapM_eq_error hoffers
      rw [offered] at hcall
      split at hcall
      · cases hcall
      · cases hcall
    · obtain ⟨offer, -, haction⟩ := mapM_eq_error hactions
      exact action_ne_missing _ _ haction

end ActionParser

/-! ## The thinking mode -/

namespace AgentState

/-- The thinking mode that is sent. -/
def mode (s : AgentState) : Option Bool := if s.thinkingDisabled then some false else none

/-- The thinking modes that were sent. -/
def modes (s : AgentState) : List (Option Bool) := s.requests.map CompletionRequest.enableThinking

end AgentState

theorem rounds_mode (call : FittedCall) (llm : Replies) :
    ∀ (n : ℕ) (earlier : List CompletionRequest) (window : ContextWindow)
      (last : Except FittingError Completion), ∀ sent ∈ (call.rounds llm n earlier window last).sent,
        sent.request.enableThinking = call.enableThinking
  | 0, _, _, _, _, hsent => by cases hsent
  | n + 1, earlier, window, last, sent, hsent => by
    rw [FittedCall.rounds] at hsent
    split at hsent
    · cases hsent
    · next baseMessages dropped hfit =>
      dsimp only at hsent
      rcases hsettle : window.settle (baseMessages ++ call.turnMessages) (llm (earlier ++
        [call.request window (baseMessages ++ call.turnMessages)])) with text | window' | window'
      · rw [hsettle] at hsent
        obtain rfl := List.mem_singleton.mp hsent
        rfl
      · rw [hsettle] at hsent
        obtain rfl := List.mem_singleton.mp hsent
        rfl
      · rw [hsettle] at hsent
        rcases List.mem_cons.mp hsent with rfl | hsent
        · rfl
        · exact rounds_mode call llm n _ _ _ sent hsent

namespace LlmAgent

variable {agent : LlmAgent} {s s' s₀ : AgentState}

theorem fitting_mode (s : AgentState) (turnMessages : List Message) (stepIndex attemptIndex : ℕ)
    (enableThinking : Option Bool) :
    ∀ sent ∈ (agent.fitting s turnMessages stepIndex attemptIndex enableThinking).sent,
      sent.request.enableThinking = enableThinking := by
  intro sent hsent
  rw [fitting] at hsent
  split at hsent
  · cases hsent
  · exact rounds_mode _ _ _ _ _ _ sent hsent

theorem modes_record (s : AgentState) (turnMessages : List Message) (stepIndex attemptIndex : ℕ) :
    ∃ n, (record s (agent.fitting s turnMessages stepIndex attemptIndex s.mode)).modes =
      s.modes ++ List.replicate n s.mode := by
  refine ⟨(agent.fitting s turnMessages stepIndex attemptIndex s.mode).sent.length, ?_⟩
  rw [AgentState.modes, AgentState.requests, record]
  dsimp only
  rw [List.flatMap_append, List.map_append, List.flatMap_singleton, List.map_map]
  refine congrArg (s.modes ++ ·) (List.eq_replicate_iff.mpr ⟨List.length_map _, fun mode hmode ↦ ?_⟩)
  obtain ⟨sent, hsent, rfl⟩ := List.mem_map.mp hmode
  exact fitting_mode s turnMessages stepIndex attemptIndex s.mode sent hsent

/-! ## Between the calls -/

/-- What holds of an agent between its calls. -/
structure OnLadder (agent : LlmAgent) (s : AgentState) : Prop where
  modes : ∃ n k, s.modes = List.replicate n none ++ List.replicate k (some false) ∧
    (s.thinkingDisabled = false → k = 0)
  disabled : s.thinkingDisabled = true → agent.thinkingToggleable = true
  counted : s.lengthCutoffMissingToolCalls = s.fittings.countP Fitting.cutMissing

theorem reset_onLadder (agent : LlmAgent) (rawEnvOutput : RawEnvOutput) :
    agent.OnLadder (agent.reset rawEnvOutput) where
  modes := ⟨0, 0, rfl, fun _ ↦ rfl⟩
  disabled h := by cases h
  counted := rfl

/-! ## Within `act` -/

/-- **The invariant of the loop**, after the calls `made` of `_complete_fitted`. -/
structure Climbing (agent : LlmAgent) (s₀ : AgentState) (made : List Fitting) (s : AgentState) :
    Prop where
  ladder : agent.OnLadder s
  fittings : s.fittings = s₀.fittings ++ made
  trajectory : s.trajectory = s₀.trajectory
  first : (∃ fitting ∈ made, fitting.cutMissing = true) → s.fittings.countP Fitting.cutMissing < 2

/-- How `act` ends after the calls `made` of `_complete_fitted`. -/
inductive ActEnds (agent : LlmAgent) (s₀ : AgentState) (made : List Fitting) :
    Except AgentError (List PolicyAction) → AgentState → Prop
  /-- The calls of the last reply are parsed, in order. -/
  | parsed (earlier : List Fitting) (last : Fitting) (completion : Completion)
      (actions : List PolicyAction) (s' : AgentState) (hmade : made = earlier ++ [last])
      (hresult : last.result = .ok completion) (hcalls : completion.toolCalls ≠ [])
      (hactions : List.Forall₂ (ActionParser.Parses agent.models) completion.toolCalls actions)
      (htrajectory : s'.trajectory = s₀.trajectory) : ActEnds agent s₀ made (.ok actions) s'
  /-- A failed step says how many attempts were made. -/
  | gaveUp (text error : String) (s' : AgentState)
      (htrajectory : s'.trajectory =
        s₀.trajectory ++ [.failed { attempts := made.length, error := error }]) :
      ActEnds agent s₀ made (.error (.noValidAction text)) s'
  | cutOff (text : String) (s' : AgentState) (htrajectory : s'.trajectory = s₀.trajectory) :
      ActEnds agent s₀ made (.error (.repeatedLengthCutoff text)) s'
  /-- The last call of `_complete_fitted` raised, and what it raised is no rejection. -/
  | raised (earlier : List Fitting) (last : Fitting) (error : FittingError) (s' : AgentState)
      (hmade : made = earlier ++ [last]) (hresult : last.result = .error error)
      (herror : ¬error.Rejection) (htrajectory : s'.trajectory = s₀.trajectory) :
      ActEnds agent s₀ made (.error (.fitting error)) s'

/-- What `act` does. -/
structure Acts (agent : LlmAgent) (s₀ : AgentState) (result : Except AgentError (List PolicyAction))
    (s' : AgentState) (made : List Fitting) : Prop where
  ladder : agent.OnLadder s'
  fittings : s'.fittings = s₀.fittings ++ made
  bounded : made.length ≤ agent.maxOutputRetries + 1
  ends : agent.ActEnds s₀ made result s'
  /-- It stops for good if and only if it sees a reply cut off before any call, and that is not the
  first one of the rollout. -/
  stopped : (∃ text, result = .error (.repeatedLengthCutoff text)) ↔
    (∃ fitting ∈ made, fitting.cutMissing = true) ∧ 2 ≤ s'.fittings.countP Fitting.cutMissing

/-! ## The programs of the loop -/

section Loop

variable {made : List Fitting} {turnMessages : List Message} {stepIndex attemptIndex : ℕ}
  {enableThinking : Option Bool} {completion : Completion} {fault : ActionFault} {fitting : Fitting}

theorem wp_answer {Q : Except String Completion → AgentState → Prop}
    {E : AgentError → AgentState → Prop}
    (hfitting : fitting = agent.fitting s turnMessages stepIndex attemptIndex enableThinking)
    (hok : ∀ completion, fitting.result = .ok completion → Q (.ok completion) (record s fitting))
    (hrejected : ∀ text, fitting.result = .error (.completion (.typed (.providerRejectedToolCall text))) →
      Q (.error text) (record s fitting))
    (hraised : ∀ error, fitting.result = .error error → ¬error.Rejection →
      E (.fitting error) (record s fitting)) :
    wp (agent.answer turnMessages stepIndex attemptIndex enableThinking) Q E s := by
  subst hfitting
  rw [answer, wp_tryCatch, wp_map, completeFitted, wp_bind, wp_get, wp_bind, wp_set]
  cases hresult : (agent.fitting s turnMessages stepIndex attemptIndex enableThinking).result with
  | ok completion => exact hok completion hresult
  | error error =>
    by_cases herror : error.Rejection
    · obtain ⟨text, rfl⟩ := herror
      exact hrejected text hresult
    · rw [wp_throw]
      split
      · next text heq => exact absurd ⟨text, AgentError.fitting.inj heq⟩ herror
      · exact hraised error hresult herror

/-- What `cutOff` makes of a state. -/
structure Cut (agent : LlmAgent) (s : AgentState) (fitting : Fitting) (s' : AgentState) : Prop where
  fittings : s'.fittings = s.fittings
  trajectory : s'.trajectory = s.trajectory
  keeps : s.thinkingDisabled = true → s'.thinkingDisabled = true
  disabled : s'.thinkingDisabled = true →
    s.thinkingDisabled = true ∨ agent.thinkingToggleable = true
  count : s'.lengthCutoffMissingToolCalls =
    s.lengthCutoffMissingToolCalls + fitting.cutMissing.toNat

theorem wp_dropThinking {Q : Option (Option Bool) → AgentState → Prop}
    {E : AgentError → AgentState → Prop}
    (htoggle : agent.thinkingToggleable = true →
      Q (some (some false)) { s with thinkingDisabled := true })
    (hkeep : Q (some enableThinking) s) : wp (agent.dropThinking enableThinking) Q E s := by
  rw [dropThinking, wp_ite]
  exact ⟨htoggle, fun _ ↦ hkeep⟩

theorem wp_cutOff {Q : Option (Option Bool) → AgentState → Prop}
    {E : AgentError → AgentState → Prop} (hmode : enableThinking = s.mode)
    (hresult : fitting.result = .ok completion)
    (hfault : ActionParser.actions agent.models completion = .error fault)
    (hnext : ∀ s', agent.Cut s fitting s' →
      (fitting.cutMissing = true → s'.lengthCutoffMissingToolCalls < 2) → Q (some s'.mode) s')
    (hstop : fitting.cutMissing = false → Q none s)
    (habort : ∀ s' text, agent.Cut s fitting s' → fitting.cutMissing = true →
      2 ≤ s'.lengthCutoffMissingToolCalls → E (.repeatedLengthCutoff text) s') :
    wp (agent.cutOff completion fault enableThinking) Q E s := by
  subst hmode
  have hmissing := ActionParser.missing_iff hfault
  have hcut := cutMissing_ok hresult
  rw [cutOff.eq_def, wp_ite]
  constructor
  · intro hlength
    cases fault with
    | missingToolCall =>
      have hcutMissing : fitting.cutMissing = true := hcut.mpr ⟨hmissing.mp rfl, hlength⟩
      rw [wp_bind, wp_modify, wp_bind, wp_get, wp_ite]
      constructor
      · intro hsecond
        exact habort _ _ ⟨rfl, rfl, id, Or.inl, by rw [hcutMissing]; rfl⟩ hcutMissing hsecond
      · intro hfirst
        refine wp_dropThinking (fun htoggle ↦ ?_) ?_
        · exact hnext
            { s with
              lengthCutoffMissingToolCalls := s.lengthCutoffMissingToolCalls + 1
              thinkingDisabled := true }
            ⟨rfl, rfl, fun _ ↦ rfl, fun _ ↦ Or.inr htoggle, by rw [hcutMissing]; rfl⟩
            fun _ ↦ not_le.mp hfirst
        · exact hnext { s with lengthCutoffMissingToolCalls := s.lengthCutoffMissingToolCalls + 1 }
            ⟨rfl, rfl, id, Or.inl, by rw [hcutMissing]; rfl⟩ fun _ ↦ not_le.mp hfirst
    | invalid typeName detail =>
      have hcutMissing : fitting.cutMissing = false := by
        refine Bool.eq_false_iff.mpr fun h ↦ ?_
        cases hmissing.mpr (hcut.mp h).1
      rw [wp_bind, wp_get, wp_ite]
      constructor
      · exact fun _ ↦ hstop hcutMissing
      · refine fun _ ↦ wp_dropThinking (fun htoggle ↦ ?_) ?_
        · exact hnext { s with thinkingDisabled := true }
            ⟨rfl, rfl, fun _ ↦ rfl, fun _ ↦ Or.inr htoggle, by rw [hcutMissing]; rfl⟩
            fun h ↦ absurd h (by rw [hcutMissing]; decide)
        · exact hnext s ⟨rfl, rfl, id, Or.inl, by rw [hcutMissing]; rfl⟩
            fun h ↦ absurd h (by rw [hcutMissing]; decide)
  · intro hlength
    have hcutMissing : fitting.cutMissing = false :=
      Bool.eq_false_iff.mpr fun h ↦ hlength (hcut.mp h).2
    exact hnext s ⟨rfl, rfl, id, Or.inl, by rw [hcutMissing]; rfl⟩
      fun h ↦ absurd h (by rw [hcutMissing]; decide)

/-! ## A round of the loop -/

/-- Between two calls of `_complete_fitted`, and after the last one. -/
theorem OnLadder.next (h : agent.OnLadder s)
    (hfitting : fitting = agent.fitting s turnMessages stepIndex attemptIndex s.mode)
    (hcut : agent.Cut (record s fitting) fitting s') : agent.OnLadder s' where
  modes := by
    obtain ⟨n, k, hmodes, hk⟩ := h.modes
    obtain ⟨m, hm⟩ := @modes_record agent s turnMessages stepIndex attemptIndex
    have hmodes' : s'.modes = s.modes ++ List.replicate m s.mode := by
      rw [← hm, ← hfitting, AgentState.modes, AgentState.modes, AgentState.requests,
        AgentState.requests, hcut.fittings]
    rw [hmodes', hmodes, AgentState.mode]
    cases hdisabled : s.thinkingDisabled with
    | true =>
      refine ⟨n, k + m, ?_, fun h ↦ absurd (hcut.keeps hdisabled) (by rw [h]; decide)⟩
      rw [List.append_assoc, if_pos rfl, List.replicate_append_replicate]
    | false =>
      obtain rfl := hk hdisabled
      refine ⟨n + m, 0, ?_, fun _ ↦ rfl⟩
      rw [if_neg (by decide), List.replicate_zero, List.append_nil, List.append_nil,
        List.replicate_append_replicate]
  disabled hdisabled := (hcut.disabled hdisabled).elim h.disabled id
  counted := by
    rw [hcut.count, hcut.fittings, record, List.countP_append, List.countP_singleton]
    dsimp only
    rw [h.counted]
    cases fitting.cutMissing with
    | true => rfl
    | false => rfl

theorem Climbing.next (h : agent.Climbing s₀ made s)
    (hfitting : fitting = agent.fitting s turnMessages stepIndex attemptIndex s.mode)
    (hcut : agent.Cut (record s fitting) fitting s')
    (hfirst : fitting.cutMissing = true → s'.lengthCutoffMissingToolCalls < 2) :
    agent.Climbing s₀ (made ++ [fitting]) s' := by
  have hladder := h.ladder.next hfitting hcut
  refine ⟨hladder, ?_, hcut.trajectory.trans h.trajectory, ?_⟩
  · rw [hcut.fittings, record, h.fittings, List.append_assoc]
  · rintro ⟨other, hother, hmissing⟩
    cases hcutMissing : fitting.cutMissing with
    | true =>
      rw [← hladder.counted]
      exact hfirst hcutMissing
    | false =>
      rw [hcut.fittings, record, List.countP_append, List.countP_singleton, hcutMissing]
      refine h.first ⟨other, ?_, hmissing⟩
      rcases List.mem_append.mp hother with hother | hother
      · exact hother
      · obtain rfl := List.mem_singleton.mp hother
        rw [hcutMissing] at hmissing
        cases hmissing

/-- No reply was cut off for the second time. -/
theorem Climbing.not_second (h : agent.Climbing s₀ made s) :
    ¬((∃ fitting ∈ made, fitting.cutMissing = true) ∧ 2 ≤ s.fittings.countP Fitting.cutMissing) :=
  fun ⟨hmissing, hsecond⟩ ↦ absurd (h.first hmissing) hsecond.not_gt

/-- A call of `_complete_fitted` whose reply was not cut off before any call. -/
theorem Climbing.record (h : agent.Climbing s₀ made s)
    (hfitting : fitting = agent.fitting s turnMessages stepIndex attemptIndex s.mode)
    (hcutMissing : fitting.cutMissing = false) (events : List AgentEvent) :
    agent.Climbing s₀ (made ++ [fitting]) { record s fitting with events := events } :=
  h.next hfitting ⟨rfl, rfl, id, Or.inl, by rw [hcutMissing]; rfl⟩
    fun hmissing ↦ absurd hmissing (by rw [hcutMissing]; decide)

/-- What is told in between changes nothing. -/
theorem Cut.of_events {events : List AgentEvent}
    (h : agent.Cut { s with events := events } fitting s') : agent.Cut s fitting s' :=
  ⟨h.fittings, h.trajectory, h.keeps, h.disabled, h.count⟩

/-- Every attempt failed. -/
theorem Climbing.giveUp (h : agent.Climbing s₀ made s) (hbounded : made.length ≤ agent.maxOutputRetries + 1)
    (error : String) :
    wp (LlmAgent.giveUp made.length error) (fun actions s' ↦ ∃ made', agent.Acts s₀ (.ok actions) s' made')
      (fun error s' ↦ ∃ made', agent.Acts s₀ (.error error) s' made') s := by
  rw [LlmAgent.giveUp, wp_bind, wp_modify, wp_throw]
  refine ⟨made, ⟨h.ladder.modes, h.ladder.disabled, h.ladder.counted⟩, h.fittings, hbounded,
    .gaveUp _ error _ ?_, ?_⟩
  · dsimp only
    rw [h.trajectory]
  · refine iff_of_false ?_ h.not_second
    rintro ⟨text, ⟨⟩⟩

/-- **The loop of `act`**, after the calls `made` of `_complete_fitted`. -/
theorem attempts_spec (stepIndex : ℕ) : ∀ (n : ℕ) {made : List Fitting} {s : AgentState} (turnMessages : List Message)
    (lastError : String), agent.Climbing s₀ made s → made.length + n ≤ agent.maxOutputRetries + 1 →
      wp (agent.attempts stepIndex n made.length turnMessages lastError s.mode)
        (fun actions s' ↦ ∃ made', agent.Acts s₀ (.ok actions) s' made')
        (fun error s' ↦ ∃ made', agent.Acts s₀ (.error error) s' made') s
  | 0, made, s, turnMessages, lastError, h, hbounded => h.giveUp hbounded lastError
  | n + 1, made, s, turnMessages, lastError, h, hbounded => by
    rw [attempts, wp_bind]
    -- one more call was made
    have hlength (fitting : Fitting) : made.length + 1 = (made ++ [fitting]).length := by
      rw [List.length_append, List.length_singleton]
    refine wp_answer rfl (fun completion hresult ↦ ?_) (fun text hresult ↦ ?_)
      fun error hresult herror ↦ ?_
    · dsimp only
      cases hactions : ActionParser.actions agent.models completion with
      | ok actions =>
        obtain ⟨hcalls, hparsed⟩ := ActionParser.actions_ok hactions
        have hnext := h.record rfl
          (Bool.eq_false_iff.mpr fun h ↦ hcalls ((cutMissing_ok hresult).mp h).1)
          (LlmAgent.record s (agent.fitting s turnMessages stepIndex made.length s.mode)).events
        refine ⟨_, hnext.ladder, hnext.fittings, ?_, .parsed made _ completion actions _ rfl hresult
          hcalls hparsed hnext.trajectory, iff_of_false ?_ hnext.not_second⟩
        · rw [← hlength]
          omega
        · rintro ⟨text, ⟨⟩⟩
      | error fault =>
        dsimp only
        rw [wp_bind, announce, wp_modify, wp_bind]
        refine wp_cutOff rfl hresult hactions (fun s' hcut hfirst ↦ ?_) (fun hcutMissing ↦ ?_)
          fun s' text hcut hcutMissing hsecond ↦ ?_
        · have hnext := h.next rfl hcut.of_events hfirst
          dsimp only
          rw [hlength]
          exact attempts_spec stepIndex n _ _ hnext (by rw [← hlength]; omega)
        · dsimp only
          rw [hlength]
          exact (h.record rfl hcutMissing _).giveUp (by rw [← hlength]; omega) _
        · have hladder := h.ladder.next rfl hcut.of_events
          refine ⟨made ++ [_], hladder, ?_, by rw [← hlength]; omega, .cutOff text s' ?_,
            iff_of_true ⟨text, rfl⟩ ⟨⟨_, List.mem_append_right _ (List.mem_singleton_self _), hcutMissing⟩,
              hladder.counted ▸ hsecond⟩⟩
          · rw [hcut.fittings, ← List.append_assoc, ← h.fittings]
            rfl
          · exact hcut.trajectory.trans h.trajectory
    · dsimp only
      rw [wp_bind, announce, wp_modify, hlength]
      exact attempts_spec stepIndex n _ _ (h.record rfl (cutMissing_error hresult) _)
        (by rw [← hlength]; omega)
    · have hnext := h.record rfl (cutMissing_error hresult)
        (LlmAgent.record s (agent.fitting s turnMessages stepIndex made.length s.mode)).events
      refine ⟨_, hnext.ladder, hnext.fittings, ?_, .raised made _ error _ rfl hresult herror
        hnext.trajectory, iff_of_false ?_ hnext.not_second⟩
      · rw [← hlength]
        omega
      · rintro ⟨text, ⟨⟩⟩

end Loop

/-- **Every `act`.** -/
theorem act_spec (h : agent.OnLadder s) : wp agent.act
    (fun actions s' ↦ ∃ made, agent.Acts s (.ok actions) s' made)
    (fun error s' ↦ ∃ made, agent.Acts s (.error error) s' made) s := by
  have hclimbing : agent.Climbing s [] s := by
    refine ⟨h, (List.append_nil _).symm, rfl, ?_⟩
    rintro ⟨fitting, hfitting, -⟩
    cases hfitting
  -- there are no reminder rules
  have hreminder (stepIndex : ℕ) : agent.reminderMessages stepIndex = pure [] := rfl
  rw [act, wp_bind, wp_get, wp_bind, hreminder, wp_pure, wp_bind, wp_get]
  have hattempts := attempts_spec (s.trajectory.length + 1) (agent.maxOutputRetries + 1) [] "unknown parse error" hclimbing
    (zero_add _).le
  exact hattempts

theorem call_onLadder (h : agent.OnLadder s) (call : Call) : agent.OnLadder (agent.call s call) := by
  cases call with
  | act =>
    refine wp_left (m := agent.act) (wp_mono (act_spec h) ?_ ?_)
    · rintro actions s' ⟨made, hacts⟩
      exact hacts.ladder
    · rintro error s' ⟨made, hacts⟩
      exact hacts.ladder
  | observe action stepResult =>
    rw [LlmAgent.call, observe]
    split
    · exact h
    · exact ⟨h.modes, h.disabled, h.counted⟩

theorem after_onLadder (agent : LlmAgent) (rawEnvOutput : RawEnvOutput) (calls : List Call) :
    agent.OnLadder (agent.after rawEnvOutput calls) := by
  induction calls using List.reverseRecOn with
  | nil => exact reset_onLadder agent rawEnvOutput
  | append_singleton calls call ih =>
    rw [after, List.foldl_append]
    exact call_onLadder ih call

end LlmAgent

/-- **The repair ladder**: the thinking modes of every rollout, and what every `act` of it does. -/
theorem repair_ladder (agent : LlmAgent) (rawEnvOutput : RawEnvOutput) (calls : List LlmAgent.Call) :
    (∃ n k, (agent.after rawEnvOutput calls).modes =
      List.replicate n none ++ List.replicate k (some false) ∧
        (0 < k → agent.thinkingToggleable = true)) ∧
    ∃ made, agent.Acts (agent.after rawEnvOutput calls)
      (exec agent.act (agent.after rawEnvOutput calls)).1
      (exec agent.act (agent.after rawEnvOutput calls)).2 made := by
  have h := agent.after_onLadder rawEnvOutput calls
  constructor
  · obtain ⟨n, k, hmodes, hk⟩ := h.modes
    refine ⟨n, k, hmodes, fun hpos ↦ h.disabled ?_⟩
    by_contra hdisabled
    exact hpos.ne' (hk (Bool.eq_false_iff.mpr hdisabled))
  · have hspec := agent.act_spec h
    rcases hexec : exec agent.act (agent.after rawEnvOutput calls) with ⟨error | actions, s'⟩
    · exact wp_error hspec hexec
    · exact wp_ok hspec hexec

end HarnessTraining
