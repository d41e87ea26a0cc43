import HarnessTraining.Policy.Agent
import HarnessTraining.Policy.Request
import Mathlib.Algebra.Order.Field.Basic
import Mathlib.Data.List.Chain

/-!
# Retrimming makes progress

The window of an agent learns from usage and from overflows, and a request that overflowed is sent
again only with a larger calibration.  A larger calibration never drops fewer groups: while the budget
is positive it shrinks, and a negative one drops everything up to the floor.

* `StopsAt.mono` — a tighter budget drops no fewer groups;
* `Fitting.Progress` — what a call of `_complete_fitted` does;
* `retrim_progress` — every call of a rollout does.
-/

set_option autoImplicit false

namespace HarnessTraining

open StateExcept

namespace ContextWindow

/-! ## The estimate of a request is positive -/

theorem estimateMessageTokens_pos (window : ContextWindow) (message : Message) :
    0 < window.estimateMessageTokens message := by
  rw [estimateMessageTokens]
  split
  · exact Nat.add_pos_right _ (by decide)
  · exact Nat.add_pos_right _ (by decide)

theorem estimateRequestTokens_pos (window : ContextWindow) {messages : List Message}
    (h : messages ≠ []) : 0 < window.estimateRequestTokens messages := by
  obtain ⟨message, rest, rfl⟩ := List.exists_cons_of_ne_nil h
  have := window.estimateMessageTokens_pos message
  rw [estimateRequestTokens, List.map_cons, List.sum_cons]
  omega

theorem divide_estimate (window : ContextWindow) (a : ℚ) {messages : List Message}
    (h : messages ≠ []) :
    divide a (window.estimateRequestTokens messages) =
      .ok (a / window.estimateRequestTokens messages) := by
  have := window.estimateRequestTokens_pos h
  exact if_neg (by exact_mod_cast this.ne')

/-! ## The two rules keep the calibration in range -/

/-- The calibration is in range. -/
structure Ranged (window : ContextWindow) : Prop where
  lower : 1 ≤ window.calibration
  upper : window.calibration ≤ MAX_CALIBRATION

/-- Two windows that differ in their calibration only. -/
def SameBut (window window' : ContextWindow) : Prop :=
  { window with calibration := window'.calibration } = window'

theorem SameBut.refl (window : ContextWindow) : SameBut window window := rfl

theorem one_le_min (q : ℚ) : 1 ≤ min MAX_CALIBRATION (max 1 q) :=
  le_min (by rw [MAX_CALIBRATION]; norm_num) (le_max_left 1 q)

variable {window window' : ContextWindow} {messages : List Message}

/-- What usage makes of the window. -/
theorem calibrateFromUsage_spec (h : window.Ranged) (hmessages : messages ≠ [])
    (completion : Completion) :
    ∃ window', window.calibrateFromUsage completion messages = .ok window' ∧ window'.Ranged := by
  rw [calibrateFromUsage]
  cases completion.usage.promptTokens with
  | none => exact ⟨window, rfl, h⟩
  | some real =>
    dsimp only
    rw [divide_estimate window real hmessages, ok_bind]
    exact ⟨_, rfl, one_le_min _, min_le_left _ _⟩

/-- What an overflow makes of the window: its calibration grows, or nothing is done. -/
theorem shrinkForOverflow_spec (h : window.Ranged) (hmessages : messages ≠ [])
    (inputTokens : Option ℕ) :
    ∃ shrunk, window.shrinkForOverflow inputTokens messages = .ok shrunk ∧
      ∀ window' ∈ shrunk, window'.Ranged ∧ SameBut window window' ∧
        window.calibration < window'.calibration := by
  have htarget : ∃ target, window.overflowTarget inputTokens messages = .ok target := by
    cases inputTokens with
    | none => exact ⟨_, rfl⟩
    | some inputTokens =>
      rw [overflowTarget, divide_estimate window inputTokens hmessages, ok_bind]
      exact ⟨_, rfl⟩
  obtain ⟨target, htarget⟩ := htarget
  rw [shrinkForOverflow, htarget, ok_bind]
  refine ⟨_, rfl, fun window' hwindow' ↦ ?_⟩
  split at hwindow'
  · cases hwindow'
  · next hlarger =>
    obtain rfl := Option.some.inj hwindow'
    rw [not_le] at hlarger
    exact ⟨⟨h.lower.trans hlarger.le, min_le_left _ _⟩, rfl, hlarger⟩

/-! ## A larger calibration drops no fewer groups -/

theorem StopsAt.mono {limit limit' : ℚ} {floor : ℤ} {tokens : List ℕ} {n n' : ℕ}
    (h : StopsAt limit floor tokens n) (h' : StopsAt limit' floor tokens n')
    (htighter : limit' ≤ limit ∨ limit' < 0) : n ≤ n' := by
  by_contra hlt
  obtain ⟨hfloor, hover⟩ := h.least n' (not_le.mp hlt)
  rcases h'.stops with hstop | hfits
  · exact hfloor.not_ge hstop
  · rcases htighter with hle | hneg
    · exact absurd (hfits.trans hle) hover.not_ge
    · have : (0 : ℚ) ≤ ((tokens.drop n').sum : ℕ) := Nat.cast_nonneg _
      exact absurd (this.trans hfits) hneg.not_ge

/-- A larger calibration leaves less of a budget, or leaves it negative. -/
theorem budget_mono (h : window.Ranged) (hsame : SameBut window window')
    (hlarger : window.calibration ≤ window'.calibration) :
    window'.budget ≤ window.budget ∨ window'.budget < 0 := by
  have hlower : (0 : ℚ) < window.calibration := zero_lt_one.trans_le h.lower
  rw [← hsame, budget, budget, max_eq_left h.lower]
  dsimp only
  rw [max_eq_left (h.lower.trans hlarger)]
  rcases le_or_gt 0 ((window.maxContextLength : ℚ) - window.maxCompletionTokens) with hroom | hnone
  · exact Or.inl (div_le_div_of_nonneg_left hroom hlower hlarger)
  · exact Or.inr (div_neg_of_neg_of_pos hnone (hlower.trans_le hlarger))

theorem stepBudget_mono (h : window.Ranged) (hsame : SameBut window window')
    (hlarger : window.calibration ≤ window'.calibration) (head turnMessages : List Message) :
    window'.stepBudget head turnMessages ≤ window.stepBudget head turnMessages ∨
      window'.stepBudget head turnMessages < 0 := by
  have hcount : window'.estimateRequestTokens head +
      (turnMessages.map window'.estimateMessageTokens).sum =
        window.estimateRequestTokens head + (turnMessages.map window.estimateMessageTokens).sum := by
    rw [← hsame]
    rfl
  rw [stepBudget, stepBudget, hcount]
  rcases budget_mono h hsame hlarger with hless | hneg
  · exact Or.inl (sub_le_sub_right hless _)
  · refine Or.inr (lt_of_le_of_lt (sub_le_self _ ?_) hneg)
    exact Nat.cast_nonneg _

theorem dropped_mono (h : window.Ranged) (hsame : SameBut window window')
    (hlarger : window.calibration ≤ window'.calibration) {head turnMessages : List Message}
    {stepGroups : List (List Message)} {floor : ℤ} {messages messages' : List Message}
    {dropped dropped' : ℕ}
    (hfit : window.fit head stepGroups floor turnMessages = .ok (messages, dropped))
    (hfit' : window'.fit head stepGroups floor turnMessages = .ok (messages', dropped')) :
    dropped ≤ dropped' := by
  have hgroups : stepGroups.map window'.groupTokens = stepGroups.map window.groupTokens := by
    rw [← hsame]
    rfl
  have hstops' := (fit_eq.mp hfit').1
  rw [hgroups] at hstops'
  exact (fit_eq.mp hfit).1.mono hstops' (stepBudget_mono h hsame hlarger head turnMessages)

/-! ## A reply -/

/-- The server says that the request is too long. -/
def Overflow (reply : Except CompletionError Completion) : Prop :=
  ∃ text limit requested inputTokens,
    reply = .error (.typed (.contextWindowExceeded text limit requested inputTokens))

/-- What a round makes of the window. -/
def Settled (window : ContextWindow) (reply : Except CompletionError Completion) : Round → Prop
  | .done window' => window'.Ranged
  | .again window' _ _ => Overflow reply ∧ window'.Ranged ∧ SameBut window window' ∧
      window.calibration < window'.calibration

theorem settle_spec (h : window.Ranged) (hmessages : messages ≠ [])
    (reply : Except CompletionError Completion) :
    ∃ round, window.settle messages reply = .ok round ∧ Settled window reply round := by
  rw [settle.eq_def]
  split
  · next completion =>
    obtain ⟨window', hwindow', hranged⟩ := calibrateFromUsage_spec h hmessages completion
    rw [hwindow', ok_bind]
    exact ⟨_, rfl, hranged⟩
  · next text limit requested inputTokens =>
    obtain ⟨shrunk, hshrunk, hspec⟩ := shrinkForOverflow_spec h hmessages inputTokens
    rw [hshrunk, ok_bind]
    cases shrunk with
    | none => exact ⟨_, rfl, h⟩
    | some window' => exact ⟨_, rfl, ⟨text, limit, requested, inputTokens, rfl⟩, hspec window' rfl⟩
  · exact ⟨_, rfl, h⟩

end ContextWindow

open ContextWindow

/-! ## A call of `_complete_fitted` -/

/-- A request is sent again with a larger calibration, and drops no fewer groups. -/
structure SentRequest.Shrinks (sent next : SentRequest) : Prop where
  overflow : Overflow sent.reply
  calibration : sent.calibration < next.calibration
  dropped : sent.dropped ≤ next.dropped

/-- What a call of `_complete_fitted` does. -/
structure Fitting.Progress (fitting : Fitting) : Prop where
  ranged : ∀ sent ∈ fitting.sent, 1 ≤ sent.calibration ∧ sent.calibration ≤ MAX_CALIBRATION
  left : fitting.window.Ranged
  shrinks : fitting.sent.IsChain SentRequest.Shrinks
  bounded : fitting.sent.length ≤ RETRIM_BUDGET + 1
  /-- It ends as its last request does. -/
  ends : ∃ last, fitting.sent.getLast? = some last ∧ fitting.result = outcomeOf last.reply

/-- What the loop does in `n` rounds from a window on. -/
structure FittedCall.Rounds (call : FittedCall) (n : ℕ) (window : ContextWindow)
    (last : Except FittingError Completion) (fitting : Fitting) : Prop where
  ranged : ∀ sent ∈ fitting.sent, 1 ≤ sent.calibration ∧ sent.calibration ≤ MAX_CALIBRATION
  left : fitting.window.Ranged
  shrinks : fitting.sent.IsChain SentRequest.Shrinks
  bounded : fitting.sent.length ≤ n
  first : ∀ first ∈ fitting.sent.head?, first.calibration = window.calibration ∧
    ∃ messages, window.fit call.head call.stepGroups call.floor call.turnMessages =
      .ok (messages, first.dropped)
  ends : fitting.result = (fitting.sent.getLast?.map fun sent ↦ outcomeOf sent.reply).getD last
  sends : 0 < n → fitting.sent ≠ []

namespace FittedCall

variable {call : FittedCall} {window window' : ContextWindow}

/-- What is fitted begins with the head. -/
theorem fitted_ne_nil (hhead : call.head ≠ []) {messages : List Message} {dropped : ℕ}
    (hfit : window.fit call.head call.stepGroups call.floor call.turnMessages =
      .ok (messages, dropped)) : messages ++ call.turnMessages ≠ [] := by
  obtain ⟨-, rfl⟩ := fit_eq.mp hfit
  simp [fitted, hhead]

theorem Rounds.one {n : ℕ} {last : Except FittingError Completion} {sent : SentRequest}
    {messages : List Message} {events : List AgentEvent} (h : window.Ranged)
    (hleft : window'.Ranged) (hcalibration : sent.calibration = window.calibration)
    (hfit : window.fit call.head call.stepGroups call.floor call.turnMessages =
      .ok (messages, sent.dropped)) :
    call.Rounds (n + 1) window last
      { sent := [sent], window := window', events, result := outcomeOf sent.reply } where
  ranged := by
    rw [List.forall_mem_singleton, hcalibration]
    exact ⟨h.lower, h.upper⟩
  left := hleft
  shrinks := .singleton _
  bounded := Nat.succ_le_succ n.zero_le
  first first hfirst := by
    obtain rfl := Option.some.inj hfirst
    exact ⟨hcalibration, messages, hfit⟩
  ends := rfl
  sends _ := List.cons_ne_nil _ _

/-- A round that overflowed, and those after it. -/
theorem Rounds.after {n : ℕ} {last : Except FittingError Completion} {sent : SentRequest}
    {messages : List Message} {events : List AgentEvent} {rest : Fitting} (h : window.Ranged)
    (hcalibration : sent.calibration = window.calibration)
    (hfit : window.fit call.head call.stepGroups call.floor call.turnMessages =
      .ok (messages, sent.dropped))
    (hoverflow : Overflow sent.reply) (hsame : SameBut window window')
    (hlarger : window.calibration < window'.calibration)
    (hrest : call.Rounds n window' (outcomeOf sent.reply) rest) :
    call.Rounds (n + 1) window last (rest.after sent events) where
  ranged := by
    refine List.forall_mem_cons.mpr ⟨?_, hrest.ranged⟩
    rw [hcalibration]
    exact ⟨h.lower, h.upper⟩
  left := hrest.left
  shrinks := by
    refine List.isChain_cons.mpr ⟨fun next hnext ↦ ?_, hrest.shrinks⟩
    obtain ⟨hnextCalibration, messages', hfit'⟩ := hrest.first next hnext
    refine ⟨hoverflow, ?_, dropped_mono h hsame hlarger.le hfit hfit'⟩
    rw [hcalibration, hnextCalibration]
    exact hlarger
  bounded := Nat.succ_le_succ hrest.bounded
  first first hfirst := by
    obtain rfl := Option.some.inj hfirst
    exact ⟨hcalibration, messages, hfit⟩
  ends := by
    have hends := hrest.ends
    rw [Fitting.after, List.getLast?_cons]
    rw [hends]
    cases rest.sent.getLast? with
    | none => rfl
    | some _ => rfl
  sends _ := List.cons_ne_nil _ _

/-- **The loop of `_complete_fitted`.** -/
theorem rounds_spec (hhead : call.head ≠ []) (hfloor : call.floor ≤ call.stepGroups.length)
    (llm : Replies) : ∀ (n : ℕ) (earlier : List CompletionRequest) (window : ContextWindow)
      (last : Except FittingError Completion), window.Ranged →
        call.Rounds n window last (call.rounds llm n earlier window last)
  | 0, earlier, window, last, h => {
    ranged := fun _ hsent ↦ by cases hsent
    left := h
    shrinks := .nil
    bounded := le_rfl
    first := fun _ hfirst ↦ by cases hfirst
    ends := rfl
    sends := fun hpos ↦ absurd hpos (lt_irrefl 0) }
  | n + 1, earlier, window, last, h => by
    obtain ⟨baseMessages, dropped, hfit⟩ := exists_fit window call.head call.turnMessages hfloor
    have hmessages := fitted_ne_nil hhead hfit
    rw [rounds, hfit]
    dsimp only
    obtain ⟨round, hround, hsettled⟩ := settle_spec h hmessages
      (llm (earlier ++ [call.request window (baseMessages ++ call.turnMessages)]))
    rw [hround]
    cases round with
    | done window' => exact Rounds.one h hsettled rfl hfit
    | again window' limit requested =>
      obtain ⟨hoverflow, hranged, hsame, hlarger⟩ := hsettled
      exact Rounds.after h rfl hfit hoverflow hsame hlarger
        (rounds_spec hhead hfloor llm n _ window' _ hranged)

end FittedCall

/-! ## A rollout -/

/-- The invariant of a rollout. -/
structure AgentState.Progressing (s : AgentState) : Prop where
  window : s.window.Ranged
  fittings : ∀ fitting ∈ s.fittings, fitting.Progress

namespace LlmAgent

variable {agent : LlmAgent} {s : AgentState}

theorem head_ne_nil (instruction : String) (workingDir : Option String) :
    RequestBuilder.head instruction workingDir ≠ [] := List.cons_ne_nil _ _

/-- What is assembled for a call is fitted. -/
theorem fitting_progress (hmarker : agent.requestBuilder.MarkerFits) (h : s.window.Ranged)
    (turnMessages : List Message) (stepIndex attemptIndex : ℕ) (enableThinking : Option Bool) :
    (agent.fitting s turnMessages stepIndex attemptIndex enableThinking).Progress := by
  obtain ⟨stepGroups, hassemble, hrendered⟩ := RequestBuilder.assemble_spec hmarker
    s.initialEnvOutput.instruction s.initialEnvOutput.workingDir s.trajectory
  have hfloor : RequestBuilder.floorOf s.trajectory ≤ stepGroups.length := by
    rw [hrendered.length]
    exact floorOf_le s.trajectory
  rw [fitting, hassemble]
  dsimp only
  have hrounds := @FittedCall.rounds_spec {
      head := RequestBuilder.head s.initialEnvOutput.instruction s.initialEnvOutput.workingDir
      stepGroups, floor := RequestBuilder.floorOf s.trajectory, turnMessages, stepIndex, attemptIndex
      enableThinking }
    (head_ne_nil _ _) hfloor agent.llm (RETRIM_BUDGET + 1) s.requests s.window
    (.error (.raised "AssertionError")) h
  obtain ⟨last, hlast⟩ := Option.isSome_iff_exists.mp
    (List.getLast?_isSome.mpr (hrounds.sends (Nat.succ_pos _)))
  refine ⟨hrounds.ranged, hrounds.left, hrounds.shrinks, hrounds.bounded, last, hlast, ?_⟩
  rw [hrounds.ends, hlast]
  rfl

/-- A program of the agent keeps the invariant, however it ends. -/
abbrev Keeps {α : Type} (m : Act α) : Prop :=
  Preserves (fun s s' : AgentState ↦ s.Progressing → s'.Progressing) m

theorem keeps_trans (a b c : AgentState) (hab : a.Progressing → b.Progressing)
    (hbc : b.Progressing → c.Progressing) (ha : a.Progressing) : c.Progressing := hbc (hab ha)

theorem Keeps.pure {α : Type} (a : α) : Keeps (Pure.pure a : Act α) := fun _ h ↦ h

theorem Keeps.throw {α : Type} (error : AgentError) :
    Keeps (MonadExcept.throw error : Act α) := fun _ h ↦ h

theorem Keeps.bind {α β : Type} {m : Act α} {f : α → Act β} (hm : Keeps m) (hf : ∀ a, Keeps (f a)) :
    Keeps (m >>= f) := Preserves.bind keeps_trans hm hf

theorem Keeps.get : Keeps (MonadState.get : Act AgentState) := fun _ h ↦ h

/-- What leaves the window and the calls alone. -/
theorem Keeps.modify {f : AgentState → AgentState} (hwindow : ∀ s, (f s).window = s.window)
    (hfittings : ∀ s, (f s).fittings = s.fittings) :
    Keeps (modify f : Act PUnit) := fun s h ↦
  ⟨hwindow s ▸ h.window, hfittings s ▸ h.fittings⟩

theorem keeps_announce (event : AgentEvent) : Keeps (announce event) :=
  Keeps.modify (fun _ ↦ rfl) fun _ ↦ rfl

theorem keeps_completeFitted (hmarker : agent.requestBuilder.MarkerFits) (turnMessages : List Message)
    (stepIndex attemptIndex : ℕ) (enableThinking : Option Bool) :
    Keeps (agent.completeFitted turnMessages stepIndex attemptIndex enableThinking) := by
  intro s
  rw [completeFitted, wp_bind, wp_get, wp_bind, wp_set]
  have hrecord (h : s.Progressing) : (record s
      (agent.fitting s turnMessages stepIndex attemptIndex enableThinking)).Progressing := by
    have hprogress := fitting_progress hmarker h.window turnMessages stepIndex attemptIndex
      enableThinking
    refine ⟨hprogress.left, List.forall_mem_append.mpr ⟨h.fittings, ?_⟩⟩
    rw [List.forall_mem_singleton]
    exact hprogress
  split
  · exact hrecord
  · exact hrecord

theorem keeps_answer (hmarker : agent.requestBuilder.MarkerFits) (turnMessages : List Message)
    (stepIndex attemptIndex : ℕ) (enableThinking : Option Bool) :
    Keeps (agent.answer turnMessages stepIndex attemptIndex enableThinking) := by
  refine Preserves.tryCatch keeps_trans ?_ fun error ↦ ?_
  · exact Keeps.bind (keeps_completeFitted hmarker _ _ _ _) fun _ ↦ Keeps.pure _
  · split
    · exact Keeps.pure _
    · exact Keeps.throw _

theorem keeps_giveUp (attempts : ℕ) (error : String) : Keeps (giveUp attempts error) :=
  Keeps.bind (Keeps.modify (fun _ ↦ rfl) fun _ ↦ rfl) fun _ ↦ Keeps.throw _

theorem keeps_dropThinking (enableThinking : Option Bool) :
    Keeps (agent.dropThinking enableThinking) := by
  rw [dropThinking]
  split
  · exact Keeps.bind (Keeps.modify (fun _ ↦ rfl) fun _ ↦ rfl) fun _ ↦ Keeps.pure _
  · exact Keeps.pure _

theorem keeps_cutOff (completion : Completion) (fault : ActionFault) (enableThinking : Option Bool) :
    Keeps (agent.cutOff completion fault enableThinking) := by
  rw [cutOff.eq_def]
  split
  · cases fault with
    | missingToolCall =>
      refine Keeps.bind (Keeps.modify (fun _ ↦ rfl) fun _ ↦ rfl) fun _ ↦ Keeps.bind Keeps.get fun s ↦ ?_
      split
      · exact Keeps.throw _
      · exact keeps_dropThinking enableThinking
    | invalid typeName detail =>
      refine Keeps.bind Keeps.get fun s ↦ ?_
      split
      · exact Keeps.pure _
      · exact keeps_dropThinking enableThinking
  · exact Keeps.pure _

theorem keeps_attempts (hmarker : agent.requestBuilder.MarkerFits) (stepIndex : ℕ) :
    ∀ (n attemptIndex : ℕ) (turnMessages : List Message) (lastError : String)
      (enableThinking : Option Bool),
      Keeps (agent.attempts stepIndex n attemptIndex turnMessages lastError enableThinking)
  | 0, _, _, _, _ => keeps_giveUp _ _
  | n + 1, _, _, _, _ => by
    rw [attempts]
    refine Keeps.bind (keeps_answer hmarker _ _ _ _) fun reply ↦ ?_
    cases reply with
    | error text =>
      exact Keeps.bind (keeps_announce _) fun _ ↦ keeps_attempts hmarker stepIndex n _ _ _ _
    | ok completion =>
      dsimp only
      split
      · exact Keeps.pure _
      · refine Keeps.bind (keeps_announce _) fun _ ↦ Keeps.bind (keeps_cutOff _ _ _) fun next ↦ ?_
        cases next with
        | none => exact keeps_giveUp _ _
        | some enableThinking' => exact keeps_attempts hmarker stepIndex n _ _ _ _

theorem keeps_act (hmarker : agent.requestBuilder.MarkerFits) : Keeps agent.act :=
  Keeps.bind Keeps.get fun _ ↦ Keeps.bind (Keeps.pure _) fun _ ↦ Keeps.bind Keeps.get fun _ ↦
    keeps_attempts hmarker _ _ _ _ _ _

/-- **Every call of the agent keeps the invariant.** -/
theorem call_progressing (hmarker : agent.requestBuilder.MarkerFits) (h : s.Progressing)
    (call : Call) : (agent.call s call).Progressing := by
  cases call with
  | act => exact (keeps_act hmarker).run s h
  | observe action stepResult =>
    rw [LlmAgent.call, observe]
    split
    · exact h
    · exact ⟨h.window, h.fittings⟩

theorem reset_progressing (agent : LlmAgent) (rawEnvOutput : RawEnvOutput) :
    (agent.reset rawEnvOutput).Progressing where
  window := ⟨le_rfl, by rw [MAX_CALIBRATION]; exact (by norm_num : (1 : ℚ) ≤ 4)⟩
  fittings _ h := by cases h

theorem after_progressing (hmarker : agent.requestBuilder.MarkerFits) (rawEnvOutput : RawEnvOutput)
    (calls : List Call) : (agent.after rawEnvOutput calls).Progressing := by
  induction calls using List.reverseRecOn with
  | nil => exact reset_progressing agent rawEnvOutput
  | append_singleton calls call ih =>
    rw [after, List.foldl_append]
    exact call_progressing hmarker ih call

end LlmAgent

/-- Argument models that know the empty object only. -/
def emptyModels : ArgumentModels where
  isSpace := Char.isWhitespace
  repr text := "'" ++ text ++ "'"
  loads text :=
    if text = "\x7b\x7d" then .ok (.obj [])
    else .error ("JSONDecodeError", "Expecting value: line 1 column 1 (char 0)")
  modelValidate
    | .submit, [] => .ok .submit
    | _, _ => .error "1 validation error"
  schema _ := .obj []

/-- The server takes a request when it sees it for the second time. -/
def overflowOnce : Replies := fun requests ↦
  if requests.length = 1 then
    .error (.typed (.contextWindowExceeded "too long" (some 100) (some 120) (some 110)))
  else .ok { toolCalls := [⟨"submit", ""⟩], usage := { promptTokens := some 90 } }

def overflowAgent : LlmAgent where
  llm := overflowOnce
  models := emptyModels
  maxContextLength := 100
  maxCompletionTokens := 10
  tokenCounter := some characterCounter

end HarnessTraining
