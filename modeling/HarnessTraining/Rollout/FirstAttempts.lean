import HarnessTraining.Rollout.Decisions
import HarnessTraining.Rollout.Deduplication
import HarnessTraining.Rollout.Grade
import Mathlib.Algebra.Order.BigOperators.Group.Finset

/-!
# First attempts

How the attempts of a policy are labelled and counted.  The event sink sees two streams that meet: the
attempts, while the policy decides, and the rows of the loop, after the batch is executed.

* `Decision` — a call of `act`: its attempts, their labels, and the step it produced first;
* `first_attempts_iff` — labels and counts over any run of the episode loop.
-/

set_option autoImplicit false

namespace HarnessTraining

open Python StateExcept TelemetrySink

/-! ## Labels -/

/-- The `step_index` and the `attempt_index` of a row of an attempt. -/
def attemptLabel? (row : PyDict) : Option (ℕ × ℕ) :=
  match PyJson.get? (ofString "event") row, PyJson.get? (ofString "step_index") row,
      PyJson.get? (ofString "attempt_index") row with
  | some (.str name), some (.int stepIndex), some (.int attemptIndex) =>
    if name = ofString "completion_received" ∨ name = ofString "completion_rejected" then
      some (stepIndex.toNat, attemptIndex.toNat)
    else none
  | _, _, _ => none

def attemptLabels (trace : List PyDict) : List (ℕ × ℕ) := trace.filterMap attemptLabel?

/-- The indices of the attempts that are recorded, from `index` on. -/
def ordinals : ℕ → List Bool → List ℕ
  | _, [] => []
  | index, true :: recorded => index :: ordinals (index + 1) recorded
  | index, false :: recorded => ordinals (index + 1) recorded

theorem le_of_mem_ordinals : ∀ {recorded : List Bool} {index n : ℕ}, n ∈ ordinals index recorded → index ≤ n
  | [], _, _, h => by cases h
  | true :: _, _, _, h => (List.mem_cons.mp h).elim (fun h ↦ h.ge) fun h ↦
      (Nat.le_succ _).trans (le_of_mem_ordinals h)
  | false :: _, _, _, h => (Nat.le_succ _).trans (le_of_mem_ordinals h)

theorem nodup_ordinals : ∀ (recorded : List Bool) (index : ℕ), (ordinals index recorded).Nodup
  | [], _ => List.nodup_nil
  | true :: recorded, index => List.nodup_cons.mpr
      ⟨fun h ↦ absurd (le_of_mem_ordinals h) (Nat.not_succ_le_self index), nodup_ordinals recorded _⟩
  | false :: recorded, _ => nodup_ordinals recorded _

theorem ordinals_eq_nil_iff : ∀ {recorded : List Bool} {index : ℕ},
    ordinals index recorded = [] ↔ ∀ flag ∈ recorded, flag = false
  | [], _ => iff_of_true rfl (List.forall_mem_nil _)
  | true :: _, _ => iff_of_false (List.cons_ne_nil _ _) fun h ↦ by cases h true List.mem_cons_self
  | false :: recorded, index => by
    rw [List.forall_mem_cons, and_iff_right rfl, ordinals, ordinals_eq_nil_iff]

/-- The indices run on without a gap exactly if no attempt is recorded after one that is not. -/
theorem ordinals_eq_range'_iff : ∀ {recorded : List Bool} {index : ℕ},
    (∃ n, ordinals index recorded = List.range' index n) ↔
      recorded.Pairwise fun first later ↦ later = true → first = true
  | [], _ => iff_of_true ⟨0, rfl⟩ .nil
  | true :: recorded, index => by
    rw [List.pairwise_cons, ← @ordinals_eq_range'_iff recorded (index + 1), ordinals]
    constructor
    · rintro ⟨n, h⟩
      cases n with
      | zero => cases h
      | succ n => exact ⟨fun _ _ _ ↦ rfl, n, (List.cons.inj h).2⟩
    · rintro ⟨-, n, h⟩
      exact ⟨n + 1, by rw [h, List.range'_succ]⟩
  | false :: recorded, index => by
    rw [List.pairwise_cons, ordinals]
    constructor
    · rintro ⟨n, h⟩
      have hn : n = 0 := by
        by_contra hn
        have hmem : index ∈ ordinals (index + 1) recorded := by
          rw [h, List.mem_range'_1]
          omega
        exact absurd (le_of_mem_ordinals hmem) (Nat.not_succ_le_self index)
      subst hn
      have hnone : ∀ later ∈ recorded, ¬later = true :=
        fun later hlater ↦ Bool.eq_false_iff.mp (ordinals_eq_nil_iff.mp h later hlater)
      exact ⟨fun later hlater h ↦ absurd h (hnone later hlater),
        List.pairwise_of_forall_mem_list fun _ _ later hlater h ↦ absurd h (hnone later hlater)⟩
    · rintro ⟨hnone, -⟩
      refine ⟨0, ordinals_eq_nil_iff.mpr fun flag hflag ↦ ?_⟩
      exact Bool.eq_false_iff.mpr fun h ↦ by cases hnone flag hflag h

/-! ## Announcements -/

namespace Announcement

/-- An attempt of the model: a completion, or a tool call that the provider rejected. -/
def isAttempt : Announcement → Bool
  | completionReceived _ _ _ _ | completionRejected _ => true
  | _ => false

def isPolicyEvent : Announcement → Bool
  | policyEvent _ _ _ => true
  | _ => false

theorem isAttempt_of_isPolicyEvent {announcement : Announcement}
    (h : announcement.isPolicyEvent = true) : announcement.isAttempt = false := by
  cases announcement <;> first | rfl | cases h

/-- A row of the loop. -/
def ofRow : TelemetryRow → Announcement
  | .noValidActionStep stepIndex => noValidActionStep stepIndex
  | .stepCompleted stepIndex callIndex stepResult terminal =>
    stepCompleted stepIndex callIndex stepResult terminal

end Announcement

/-- What the labels are made of, and what is counted. -/
def TelemetrySink.counters (telemetry : TelemetrySink) : ℕ × ℕ × ℕ × ℕ :=
  (telemetry.stepsTaken, telemetry.pendingCompletions, telemetry.firstAttemptTotal,
    telemetry.firstAttemptValid)

/-- Everything but the arguments of the tool calls of an attempt is fine. -/
def AttemptSafe (telemetry : TelemetrySink) : Announcement × Writing → Prop
  | (.completionReceived requestMessages requestTools completion _, writing) =>
    completion.JsonSafe ∧ RequestSafe telemetry writing requestMessages requestTools
  | (.completionRejected _, writing) => RequestSafe telemetry writing [] []
  | _ => True

section Announcements

variable (sha256 decodeError : Text → Text)

/-- Whether an announcement is recorded. -/
def Announcement.returns (a : Announcement × Writing) (telemetry : TelemetrySink) : Bool :=
  match (exec (a.1.record sha256 decodeError a.2) telemetry).1 with
  | .ok _ => true
  | .error _ => false

/-- Which of the attempts are recorded. -/
def recordedAttempts : TelemetrySink → List (Announcement × Writing) → List Bool
  | _, [] => []
  | telemetry, a :: announced =>
    if a.1.isAttempt then
      Announcement.returns sha256 decodeError a telemetry ::
        recordedAttempts (Announcement.leaves sha256 decodeError a telemetry) announced
    else recordedAttempts (Announcement.leaves sha256 decodeError a telemetry) announced

variable {sha256 decodeError} {a : Announcement × Writing} {telemetry : TelemetrySink}
  {writing : Writing}

theorem returns_iff : Announcement.returns sha256 decodeError a telemetry = true ↔
    wp (a.1.record sha256 decodeError a.2) (fun _ _ ↦ True) (fun _ _ ↦ False) telemetry := by
  rw [Announcement.returns, wp]
  rcases exec (a.1.record sha256 decodeError a.2) telemetry with ⟨_ | _, _⟩
  · exact iff_of_false Bool.false_ne_true not_false
  · exact iff_of_true rfl trivial

theorem attemptLabel?_eq_none {row : PyDict} {name : String}
    (h : PyJson.get? (ofString "event") row = some (.str (ofString name)))
    (hreceived : name ≠ "completion_received") (hrejected : name ≠ "completion_rejected") :
    attemptLabel? row = none := by
  rw [attemptLabel?, h]
  split
  · next heq _ _ =>
    obtain rfl := PyJson.str.inj (Option.some.inj heq)
    rw [if_neg]
    rw [ofString_injective.eq_iff, ofString_injective.eq_iff]
    exact fun h ↦ h.elim hreceived hrejected
  · rfl

/-- What is no attempt leaves no label. -/
theorem labels_leaves_other {announcement : Announcement} (h : announcement.isAttempt = false) :
    attemptLabels (Announcement.leaves sha256 decodeError (announcement, writing) telemetry).trace =
      attemptLabels telemetry.trace := by
  rcases announcement.leaves_trace sha256 decodeError writing telemetry with
    htrace | ⟨row, htrace, hevent, hknown⟩
  · rw [htrace]
  · have hnone : attemptLabel? row = none := by
      refine attemptLabel?_eq_none hevent ?_ ?_
      all_goals
        cases announcement with
        | completionReceived | completionRejected => cases h
        | policyEvent name error fields =>
          have hname := hknown _ _ _ rfl
          rintro rfl
          exact absurd hname (by decide)
        | noValidActionStep | stepCompleted => simp [Announcement.eventName]
    rw [htrace, attemptLabels, List.filterMap_append, List.filterMap_cons_none hnone]
    exact List.append_nil _

theorem attemptLabel?_pyDict {members : List (String × PyJson)} {name : String} {stepIndex attemptIndex : ℕ}
    (hevent : members.lookup "event" = some (.str (ofString name)))
    (hname : name = "completion_received" ∨ name = "completion_rejected")
    (hstep : members.lookup "step_index" = some (.int stepIndex))
    (hattempt : members.lookup "attempt_index" = some (.int attemptIndex)) :
    attemptLabel? (pyDict members) = some (stepIndex, attemptIndex) := by
  rw [attemptLabel?, get?_pyDict, get?_pyDict, get?_pyDict, hevent, hstep, hattempt]
  dsimp only
  rw [if_pos (by rwa [ofString_injective.eq_iff, ofString_injective.eq_iff]), Int.toNat_natCast,
    Int.toNat_natCast]

section Rejected

variable {error : Text} {Q : Unit → TelemetrySink → Prop}

theorem returns_onCompletionRejected :
    wp (onCompletionRejected writing error) Q (fun _ _ ↦ False) telemetry ↔
      writing.disk = .ok () ∧
      PyJson.Writable (.obj (row writing.tSec "completion_rejected" (pyDict [
        ("step_index", .int (telemetry.stepsTaken + 1 : ℕ)),
        ("attempt_index", .int telemetry.pendingCompletions), ("error", .str error)]))) ∧
      Q () { telemetry with
        pendingCompletions := telemetry.pendingCompletions + 1
        trace := telemetry.trace ++ [row writing.tSec "completion_rejected" (pyDict [
          ("step_index", .int (telemetry.stepsTaken + 1 : ℕ)),
          ("attempt_index", .int telemetry.pendingCompletions), ("error", .str error)])] } := by
  rw [onCompletionRejected, attempt]
  simp only [bind_assoc, pure_bind, wp_bind, wp_get, wp_modify]
  exact returns_event

end Rejected

/-- An attempt is counted in any case, and labelled with its index if it is recorded. -/
theorem counters_leaves_attempt (h : a.1.isAttempt = true) :
    (Announcement.leaves sha256 decodeError a telemetry).counters =
      (telemetry.stepsTaken, telemetry.pendingCompletions + 1, telemetry.firstAttemptTotal,
        telemetry.firstAttemptValid) := by
  obtain ⟨announcement, writing⟩ := a
  have hseen : ∀ (t : TelemetrySink) (shas : List Text),
      counters { t with seenRequestShas := shas } = counters t := fun _ _ ↦ rfl
  have htrace : ∀ (t : TelemetrySink) (rows : List PyDict),
      counters { t with trace := rows } = counters t := fun _ _ ↦ rfl
  refine wp_left (P := fun telemetry' ↦ counters telemetry' = _) ?_
  cases announcement with
  | completionReceived requestMessages requestTools completion llmLatencySec =>
    obtain ⟨latencies, rates, hmeasure⟩ := measure_eq completion (Number.float llmLatencySec).toRat
      { telemetry with pendingCompletions := telemetry.pendingCompletions + 1 }
    have hcounters : (attempted completion llmLatencySec telemetry).counters =
        (telemetry.stepsTaken, telemetry.pendingCompletions + 1, telemetry.firstAttemptTotal,
          telemetry.firstAttemptValid) := by
      rw [attempted, hmeasure]
      rfl
    rw [Announcement.record, wp_onCompletionReceived]
    refine wp_mono (frames_slimCompletionEvent hseen sha256 decodeError (telemetry.stepsTaken + 1)
      telemetry.pendingCompletions requestMessages requestTools completion llmLatencySec
      (attempted completion llmLatencySec telemetry)) (fun fields telemetry' hframe ↦ ?_)
      fun _ _ hframe ↦ hframe.trans hcounters
    exact wp_mono (Frames.event htrace writing "completion_received" fields telemetry')
      (fun _ _ h ↦ h.trans (hframe.trans hcounters)) fun _ _ h ↦ h.trans (hframe.trans hcounters)
  | completionRejected error =>
    rw [Announcement.record, onCompletionRejected, attempt]
    simp only [bind_assoc, pure_bind, wp_bind, wp_get, wp_modify]
    exact Frames.event htrace writing "completion_rejected" _ _
  | policyEvent | noValidActionStep | stepCompleted => cases h

theorem labels_leaves_attempt (h : a.1.isAttempt = true) :
    attemptLabels (Announcement.leaves sha256 decodeError a telemetry).trace =
      attemptLabels telemetry.trace ++ if Announcement.returns sha256 decodeError a telemetry = true then
        [(telemetry.stepsTaken + 1, telemetry.pendingCompletions)] else [] := by
  obtain ⟨announcement, writing⟩ := a
  by_cases hreturns : Announcement.returns sha256 decodeError (announcement, writing) telemetry = true
  · rw [if_pos hreturns]
    have hwp := returns_iff.mp hreturns
    have hlabel : ∀ fields : PyDict, attemptLabel? fields =
        some (telemetry.stepsTaken + 1, telemetry.pendingCompletions) →
        attemptLabels (telemetry.trace ++ [fields]) = attemptLabels telemetry.trace ++
          [(telemetry.stepsTaken + 1, telemetry.pendingCompletions)] := by
      intro fields hfields
      rw [attemptLabels, List.filterMap_append, List.filterMap_cons_some hfields]
      rfl
    refine wp_left (P := fun telemetry' : TelemetrySink ↦ attemptLabels telemetry'.trace = _)
      (wp_mono ?_ (fun _ _ h ↦ h) fun _ _ (h : False) ↦ h.elim)
    cases announcement with
    | completionReceived requestMessages requestTools completion llmLatencySec =>
      obtain ⟨request, seen, parsed, hrequest, hparsed, hdisk, hwritable, -⟩ :=
        returns_onCompletionReceived.mp hwp
      refine returns_onCompletionReceived.mpr
        ⟨request, seen, parsed, hrequest, hparsed, hdisk, hwritable, hlabel _ ?_⟩
      rw [row_completionFields]
      exact attemptLabel?_pyDict rfl (Or.inl rfl) rfl rfl
    | completionRejected error =>
      obtain ⟨hdisk, hwritable, -⟩ := returns_onCompletionRejected.mp hwp
      refine returns_onCompletionRejected.mpr ⟨hdisk, hwritable, hlabel _ ?_⟩
      rw [row_pyDict (by simp)]
      exact attemptLabel?_pyDict rfl (Or.inr rfl) rfl rfl
    | policyEvent | noValidActionStep | stepCompleted => cases h
  · rw [if_neg hreturns, List.append_nil]
    rcases hexec : exec (announcement.record sha256 decodeError writing) telemetry with
      ⟨text | ⟨⟩, telemetry'⟩
    · have hframe : telemetry'.trace = telemetry.trace := wp_error (E := fun _ left ↦
        left.trace = telemetry.trace)
        (Announcement.writes sha256 decodeError writing announcement telemetry) hexec
      rw [Announcement.leaves, hexec, hframe]
    · exact absurd (returns_iff.mpr ((wp_of_exec hexec).mpr trivial)) hreturns

/-- An attempt is recorded exactly if its literals are short, when nothing else is at fault. -/
theorem returns_iff_of_safe (h : a.1.isAttempt = true) (hsafe : AttemptSafe telemetry a) :
    Announcement.returns sha256 decodeError a telemetry = true ↔ a.1.ShortLiterals := by
  obtain ⟨announcement, writing⟩ := a
  rw [returns_iff]
  cases announcement with
  | completionReceived requestMessages requestTools completion llmLatencySec =>
    refine (returns_iff_shortLiterals sha256 decodeError hsafe.1 hsafe.2).trans ?_
    constructor
    · intro hshort completion' hcompletion
      obtain rfl := Option.some.inj hcompletion
      exact hshort
    · exact fun hshort ↦ hshort completion rfl
  | completionRejected error =>
    refine iff_of_true (returns_onCompletionRejected.mpr ⟨hsafe.disk, ?_, trivial⟩) ?_
    · rw [row_pyDict (by simp), writable_pyDict]
      simp only [List.forall_mem_append, List.forall_mem_cons]
      exact ⟨⟨hsafe.stepIndex, hsafe.attemptIndex, writable_str _, List.forall_mem_nil _⟩,
        writable_str _, writable_float _, List.forall_mem_nil _⟩
    · exact fun _ hcompletion ↦ by cases hcompletion
  | policyEvent | noValidActionStep | stepCompleted => cases h

theorem counters_leaves_policyEvent (h : a.1.isPolicyEvent = true) :
    (Announcement.leaves sha256 decodeError a telemetry).counters = telemetry.counters := by
  obtain ⟨announcement, writing⟩ := a
  cases announcement with
  | policyEvent name error fields =>
    have hevent : Frames counters (event writing name fields) := Frames.event (fun _ _ ↦ rfl) _ _ _
    have hframe : Frames counters (TelemetrySink.onPolicyEvent writing name error fields) := by
      rw [TelemetrySink.onPolicyEvent.eq_def]
      split
      · exact Frames.throw _
      · split
        · split
          · exact Frames.throw _
          · exact Frames.bind (Frames.modify fun _ ↦ rfl) fun _ ↦ hevent
        · exact hevent
    exact hframe.run telemetry
  | completionReceived | completionRejected | noValidActionStep | stepCompleted => cases h

/-- The rows of the loop set the steps, and conclude the decision. -/
theorem counters_leaves_noValidActionStep (stepIndex : ℕ) :
    (Announcement.leaves sha256 decodeError (.noValidActionStep stepIndex, writing) telemetry).counters =
      { concludeDecision false telemetry with stepsTaken := stepIndex }.counters := by
  refine wp_left (P := fun telemetry' : TelemetrySink ↦ telemetry'.counters = _) ?_
  rw [Announcement.record, onNoValidActionStep, wp_bind, wp_modify, wp_bind, wp_modify]
  exact Frames.event (fun _ _ ↦ rfl) writing "no_valid_action_step" _ _

theorem counters_leaves_stepCompleted (stepIndex callIndex : ℕ) (stepResult : StepResult)
    (terminal : Bool) :
    (Announcement.leaves sha256 decodeError (.stepCompleted stepIndex callIndex stepResult terminal,
      writing) telemetry).counters =
        { if callIndex = 0 then concludeDecision true telemetry else telemetry with
          stepsTaken := stepIndex }.counters := by
  refine wp_left (P := fun telemetry' : TelemetrySink ↦ telemetry'.counters = _) ?_
  rw [Announcement.record, onStepCompleted]
  split
  · rw [wp_bind, wp_modify, wp_bind, wp_modify]
    exact Frames.event (fun _ _ ↦ rfl) writing "step_completed" _ _
  · rw [wp_bind, wp_modify]
    exact Frames.event (fun _ _ ↦ rfl) writing "step_completed" _ _

/-- While the policy runs, only attempts are counted, and each that is recorded has its own index. -/
theorem afterAll_spoken : ∀ {spoken : List (Announcement × Writing)} {telemetry : TelemetrySink},
    (∀ a ∈ spoken, a.1.isAttempt = true ∨ a.1.isPolicyEvent = true) →
      (afterAll sha256 decodeError telemetry spoken).counters =
        (telemetry.stepsTaken, telemetry.pendingCompletions +
          (recordedAttempts sha256 decodeError telemetry spoken).length,
          telemetry.firstAttemptTotal, telemetry.firstAttemptValid) ∧
      attemptLabels (afterAll sha256 decodeError telemetry spoken).trace =
        attemptLabels telemetry.trace ++ (ordinals telemetry.pendingCompletions
          (recordedAttempts sha256 decodeError telemetry spoken)).map (telemetry.stepsTaken + 1, ·)
  | [], telemetry, _ => ⟨rfl, (List.append_nil _).symm⟩
  | a :: spoken, telemetry, h => by
    obtain ⟨hfirst, h⟩ := List.forall_mem_cons.mp h
    obtain ⟨hcounters, hlabels⟩ := @afterAll_spoken spoken
      (Announcement.leaves sha256 decodeError a telemetry) h
    rw [afterAll_cons, hcounters, hlabels]
    rcases hfirst with hattempt | hpolicy
    · obtain ⟨hsteps, hpending, htotal, hvalid⟩ := by
        simpa only [counters, Prod.mk.injEq] using
          @counters_leaves_attempt sha256 decodeError a telemetry hattempt
      rw [hsteps, hpending, htotal, hvalid, labels_leaves_attempt hattempt, recordedAttempts,
        if_pos hattempt, List.length_cons, List.append_assoc]
      refine ⟨by rw [Nat.add_assoc, Nat.add_comm 1], congrArg _ ?_⟩
      cases Announcement.returns sha256 decodeError a telemetry with
      | true => rfl
      | false => rfl
    · obtain ⟨hsteps, hpending, htotal, hvalid⟩ := by
        simpa only [counters, Prod.mk.injEq] using
          @counters_leaves_policyEvent sha256 decodeError a telemetry hpolicy
      have hother := Announcement.isAttempt_of_isPolicyEvent hpolicy
      rw [hsteps, hpending, htotal, hvalid, recordedAttempts, if_neg (by rw [hother]; simp),
        @labels_leaves_other sha256 decodeError telemetry a.2 a.1 hother]
      exact ⟨rfl, rfl⟩

end Announcements

/-! ## Decisions -/

/-- The first step that is reported before the next decision, and whether an action was executed. -/
def firstProduced {A : Type} : List (Event A) → Option (ℕ × Bool)
  | [] => none
  | .act _ :: _ => none
  | .telemetry (.noValidActionStep stepIndex) _ :: _ => some (stepIndex, false)
  | .telemetry (.stepCompleted stepIndex _ _ _) _ :: _ => some (stepIndex, true)
  | _ :: events => firstProduced events

/-- A call of `act`: the attempts it made, which of them are recorded, the labels that were added, and
what it led to. -/
structure Decision where
  attempts : List Announcement
  recorded : List Bool
  labels : List (ℕ × ℕ)
  /-- The step it produced first, and whether an action was executed. -/
  produced : Option (ℕ × Bool)

/-- A decision that made an attempt is a sample as soon as it is concluded. -/
def sampled (attempts : ℕ) (produced : Option (ℕ × Bool)) : Bool :=
  decide (attempts ≠ 0) && produced.isSome

/-- The only attempt led to an executed action. -/
def validFirst (attempts : ℕ) (produced : Option (ℕ × Bool)) : Bool :=
  decide (attempts = 1) && produced.any Prod.snd

/-- What the policy and its backend announce at each event of an episode, and what writing the rows of
the loop meets.  Attempts are made inside `act` only. -/
structure Spoken (A : Type) where
  policy : List (Event A) → List (Announcement × Writing)
  writing : List (Event A) → Writing
  onlyInAct : ∀ trace event, ∀ a ∈ policy (trace ++ [event]),
    a.1.isPolicyEvent = true ∨ a.1.isAttempt = true ∧ ∃ answer, event = .act answer

def attemptsOf (announced : List (Announcement × Writing)) : List Announcement :=
  (announced.map Prod.fst).filter Announcement.isAttempt

namespace Spoken

variable {A : Type} (spoken : Spoken A) (sha256 decodeError : Text → Text)

/-- What is announced at an event. -/
def during (before : List (Event A)) : Event A → List (Announcement × Writing)
  | .telemetry row _ => [(.ofRow row, spoken.writing before)]
  | event => spoken.policy (before ++ [event])

/-- What is announced over a trace. -/
def announced : List (Event A) → List (Event A) → List (Announcement × Writing)
  | _, [] => []
  | before, event :: events => spoken.during before event ++ announced (before ++ [event]) events

/-- The decisions of a trace, with what the sink makes of them. -/
def decisions : TelemetrySink → List (Event A) → List (Event A) → List Decision
  | _, _, [] => []
  | telemetry, before, event :: events =>
    let during := spoken.during before event
    let telemetry' := afterAll sha256 decodeError telemetry during
    let rest := decisions telemetry' (before ++ [event]) events
    match event with
    | .act _ =>
      { attempts := attemptsOf during
        recorded := recordedAttempts sha256 decodeError telemetry during
        labels := (attemptLabels telemetry'.trace).drop (attemptLabels telemetry.trace).length
        produced := firstProduced events } :: rest
    | _ => rest

end Spoken

/-- The sink agrees with how far the episode is. -/
def Stage.Agrees : Stage → TelemetrySink → Prop
  | .waiting stepIndex, telemetry =>
    telemetry.stepsTaken = stepIndex ∧ telemetry.pendingCompletions = 0
  | .reporting stepIndex callIndex, telemetry =>
    telemetry.stepsTaken = stepIndex + callIndex ∧ (0 < callIndex → telemetry.pendingCompletions = 0)

/-- The labels and the counts of a part of an episode, from a stage on. -/
structure Accounts (stage : Stage) (telemetry telemetry' : TelemetrySink) (produced : Option (ℕ × Bool))
    (decisions : List Decision) : Prop where
  labels : attemptLabels telemetry'.trace =
    attemptLabels telemetry.trace ++ decisions.flatMap Decision.labels
  later : ∀ d ∈ decisions, ∀ label ∈ d.labels, stage.least < label.1
  distinct : (decisions.flatMap Decision.labels).Nodup
  ordinal : ∀ d ∈ decisions, ∃ stepIndex, d.labels = (ordinals 0 d.recorded).map (stepIndex, ·) ∧
    ∀ first ∈ d.produced, first.1 = stepIndex
  total : telemetry'.firstAttemptTotal = telemetry.firstAttemptTotal +
    (sampled telemetry.pendingCompletions produced).toNat +
      decisions.countP fun d ↦ sampled d.attempts.length d.produced
  valid : telemetry'.firstAttemptValid = telemetry.firstAttemptValid +
    (validFirst telemetry.pendingCompletions produced).toNat +
      decisions.countP fun d ↦ validFirst d.attempts.length d.produced

section Episode

variable {A : Type} {sha256 decodeError : Text → Text} {spoken : Spoken A} {stage stage' : Stage}
  {telemetry telemetry' telemetry'' : TelemetrySink} {decisions : List Decision}
  {produced produced' : Option (ℕ × Bool)}

theorem counters_eq {n : ℕ × ℕ × ℕ × ℕ} (h : telemetry.counters = n) : telemetry.stepsTaken = n.1 ∧
    telemetry.pendingCompletions = n.2.1 ∧ telemetry.firstAttemptTotal = n.2.2.1 ∧
      telemetry.firstAttemptValid = n.2.2.2 := by
  subst h
  exact ⟨rfl, rfl, rfl, rfl⟩

theorem length_recordedAttempts : ∀ (announced : List (Announcement × Writing)) (telemetry : TelemetrySink),
    (recordedAttempts sha256 decodeError telemetry announced).length = (attemptsOf announced).length
  | [], _ => rfl
  | a :: announced, telemetry => by
    have ih := length_recordedAttempts announced (Announcement.leaves sha256 decodeError a telemetry)
    rw [recordedAttempts, attemptsOf, List.map_cons]
    by_cases hattempt : a.1.isAttempt = true
    · rw [if_pos hattempt, List.filter_cons_of_pos hattempt, List.length_cons, List.length_cons, ih,
        attemptsOf]
    · rw [if_neg hattempt, List.filter_cons_of_neg hattempt, ih, attemptsOf]

/-- What the policy announces outside `act` changes nothing. -/
theorem afterAll_during_quiet (before : List (Event A)) {event : Event A} (h : event.isQuiet = true) :
    (afterAll sha256 decodeError telemetry (spoken.during before event)).counters = telemetry.counters ∧
      attemptLabels (afterAll sha256 decodeError telemetry (spoken.during before event)).trace =
        attemptLabels telemetry.trace := by
  have hduring : spoken.during before event = spoken.policy (before ++ [event]) := by
    cases event <;> first | rfl | cases h
  have hpolicy : ∀ a ∈ spoken.policy (before ++ [event]), a.1.isPolicyEvent = true := by
    intro a ha
    rcases spoken.onlyInAct before event a ha with hpolicy | ⟨-, answer, rfl⟩
    · exact hpolicy
    · cases h
  have hnone : attemptsOf (spoken.policy (before ++ [event])) = [] := by
    rw [attemptsOf, List.filter_eq_nil_iff, List.forall_mem_map]
    intro a ha
    rw [Announcement.isAttempt_of_isPolicyEvent (hpolicy a ha)]
    exact Bool.false_ne_true
  have hrecorded : recordedAttempts sha256 decodeError telemetry (spoken.policy (before ++ [event])) = [] :=
    List.length_eq_zero_iff.mp (by rw [length_recordedAttempts, hnone, List.length_nil])
  obtain ⟨hcounters, hlabels⟩ := @afterAll_spoken sha256 decodeError
    (spoken.policy (before ++ [event])) telemetry fun a ha ↦ Or.inr (hpolicy a ha)
  rw [hduring, hcounters, hlabels, hrecorded]
  exact ⟨rfl, List.append_nil _⟩

/-- Concluding a decision adds a sample if an attempt is pending. -/
theorem concludeDecision_counts (valid : Bool) (stepIndex : ℕ) (telemetry : TelemetrySink) :
    (concludeDecision valid telemetry).pendingCompletions = 0 ∧
      (concludeDecision valid telemetry).firstAttemptTotal = telemetry.firstAttemptTotal +
        (sampled telemetry.pendingCompletions (some (stepIndex, valid))).toNat ∧
      (concludeDecision valid telemetry).firstAttemptValid = telemetry.firstAttemptValid +
        (validFirst telemetry.pendingCompletions (some (stepIndex, valid))).toNat := by
  rw [concludeDecision]
  split
  · next hnone => simp [hnone, sampled, validFirst]
  · next hsome =>
    refine ⟨rfl, ?_, ?_⟩
    · simp [sampled, hsome]
    · by_cases hone : telemetry.pendingCompletions = 1 <;> cases valid <;> simp [validFirst, hone]

theorem sampled_zero (produced : Option (ℕ × Bool)) : (sampled 0 produced).toNat = 0 := rfl

theorem validFirst_zero (produced : Option (ℕ × Bool)) : (validFirst 0 produced).toNat = 0 := rfl

/-- An event that is no call of `act`. -/
theorem Accounts.step (h : Accounts stage' telemetry' telemetry'' produced' decisions)
    (hleast : stage.least ≤ stage'.least)
    (hlabels : attemptLabels telemetry'.trace = attemptLabels telemetry.trace)
    (htotal : telemetry'.firstAttemptTotal + (sampled telemetry'.pendingCompletions produced').toNat =
      telemetry.firstAttemptTotal + (sampled telemetry.pendingCompletions produced).toNat)
    (hvalid : telemetry'.firstAttemptValid + (validFirst telemetry'.pendingCompletions produced').toNat =
      telemetry.firstAttemptValid + (validFirst telemetry.pendingCompletions produced).toNat) :
    Accounts stage telemetry telemetry'' produced decisions where
  labels := by rw [h.labels, hlabels]
  later d hd label hlabel := hleast.trans_lt (h.later d hd label hlabel)
  distinct := h.distinct
  ordinal := h.ordinal
  total := by rw [h.total, htotal]
  valid := by rw [h.valid, hvalid]

/-- A call of `act`, with everything that is announced meanwhile. -/
theorem Accounts.act {announced : List (Announcement × Writing)} {stepIndex : ℕ}
    (h : Accounts (.reporting stepIndex 0) (afterAll sha256 decodeError telemetry announced) telemetry'
      produced decisions)
    (hspoken : ∀ a ∈ announced, a.1.isAttempt = true ∨ a.1.isPolicyEvent = true)
    (hleast : stage.least = stepIndex) (hsteps : telemetry.stepsTaken = stepIndex)
    (hpending : telemetry.pendingCompletions = 0)
    (hproduced : ∀ first ∈ produced, first.1 = stepIndex + 1) :
    Accounts stage telemetry telemetry' none
      ({ attempts := attemptsOf announced
         recorded := recordedAttempts sha256 decodeError telemetry announced
         labels := (attemptLabels (afterAll sha256 decodeError telemetry announced).trace).drop
          (attemptLabels telemetry.trace).length
         produced := produced } :: decisions) := by
  obtain ⟨hcounters, hlabels⟩ := @afterAll_spoken sha256 decodeError announced telemetry hspoken
  obtain ⟨-, hpending', htotal, hvalid⟩ := counters_eq hcounters
  rw [hpending, Nat.zero_add, length_recordedAttempts] at hpending'
  rw [hpending, hsteps] at hlabels
  have hadded : (attemptLabels (afterAll sha256 decodeError telemetry announced).trace).drop
      (attemptLabels telemetry.trace).length =
        (ordinals 0 (recordedAttempts sha256 decodeError telemetry announced)).map (stepIndex + 1, ·) := by
    rw [hlabels, List.drop_left]
  refine ⟨?_, ?_, ?_, ?_, ?_, ?_⟩
  · rw [h.labels, List.flatMap_cons, hadded, hlabels, List.append_assoc]
  · refine List.forall_mem_cons.mpr ⟨fun label hlabel ↦ ?_, fun d hd label hlabel ↦ ?_⟩
    · rw [hadded] at hlabel
      obtain ⟨index, -, rfl⟩ := List.mem_map.mp hlabel
      rw [hleast]
      exact Nat.lt_succ_self _
    · rw [hleast]
      exact (Nat.le_add_right _ _).trans_lt (h.later d hd label hlabel)
  · rw [List.flatMap_cons, hadded]
    refine List.nodup_append'.mpr ⟨(nodup_ordinals _ _).map (Prod.mk_right_injective _), h.distinct, ?_⟩
    intro label hlabel hlater
    obtain ⟨index, -, rfl⟩ := List.mem_map.mp hlabel
    obtain ⟨d, hd, hlabel⟩ := List.mem_flatMap.mp hlater
    exact absurd (h.later d hd _ hlabel) (lt_irrefl (stepIndex + 1))
  · exact List.forall_mem_cons.mpr ⟨⟨stepIndex + 1, hadded, hproduced⟩, h.ordinal⟩
  · rw [h.total, htotal, hpending', hpending, sampled_zero, List.countP_cons]
    cases sampled (attemptsOf announced).length produced with
    | false => simp
    | true =>
      simp
      omega
  · rw [h.valid, hvalid, hpending', hpending, validFirst_zero, List.countP_cons]
    cases validFirst (attemptsOf announced).length produced with
    | false => simp
    | true =>
      simp
      omega

/-- A decision that is not reported yet produces the next step. -/
theorem firstProduced_eq {stepIndex : ℕ} {final : Stage} : ∀ {events : List (Event A)},
    (Stage.reporting stepIndex 0).after events = some final →
      ∀ first ∈ firstProduced events, first.1 = stepIndex + 1
  | [], _, _, hfirst => by cases hfirst
  | event :: events, h, first, hfirst => by
    obtain ⟨stage', hnext, h⟩ := Stage.after_cons h
    by_cases hquiet : event.isQuiet = true
    · rw [Stage.next_quiet hquiet] at hnext
      obtain rfl := Option.some.inj hnext
      refine firstProduced_eq h first ?_
      cases event <;> first | exact hfirst | cases hquiet
    · cases event with
      | act answer => cases hfirst
      | telemetry row answer =>
        cases row with
        | noValidActionStep step =>
          rw [Stage.next] at hnext
          split at hnext
          · next hstep =>
            obtain rfl := Option.some.inj hfirst
            exact hstep.2
          · cases hnext
        | stepCompleted step call stepResult terminal =>
          rw [Stage.next] at hnext
          split at hnext
          · next hstep =>
            obtain rfl := Option.some.inj hfirst
            exact hstep.2
          · cases hnext
      | _ => exact absurd rfl hquiet

/-- A row of the loop brings the sink to the next stage, and concludes the decision under way. -/
theorem Accounts.row {row : TelemetryRow} {answer : Except String Unit} {writing : Writing}
    (hnext : stage.next (.telemetry row answer : Event A) = some stage') (hagrees : stage.Agrees telemetry) :
    stage'.Agrees (Announcement.leaves sha256 decodeError (.ofRow row, writing) telemetry) ∧
      ∀ {events : List (Event A)} {telemetry'' : TelemetrySink} {decisions : List Decision},
        Accounts stage' (Announcement.leaves sha256 decodeError (.ofRow row, writing) telemetry) telemetry''
          (firstProduced events) decisions →
        Accounts stage telemetry telemetry'' (firstProduced (.telemetry row answer :: events))
          decisions := by
  cases stage with
  | waiting stepIndex => cases hnext
  | reporting stepIndex callIndex =>
    obtain ⟨hsteps, hpending⟩ := hagrees
    cases row with
    | noValidActionStep step =>
      rw [Announcement.ofRow]
      rw [Stage.next] at hnext
      split at hnext
      · next hindex =>
        obtain ⟨rfl, rfl⟩ := hindex
        obtain rfl := Option.some.inj hnext
        obtain ⟨hnone, htotal, hvalid⟩ := concludeDecision_counts false (stepIndex + 1) telemetry
        obtain ⟨hsteps', hpending', htotal', hvalid'⟩ := counters_eq
          (@counters_leaves_noValidActionStep sha256 decodeError telemetry writing (stepIndex + 1))
        refine ⟨⟨hsteps', hpending'.trans hnone⟩, fun h ↦ h.step le_rfl (labels_leaves_other rfl) ?_ ?_⟩
        · rw [hpending'.trans hnone, sampled_zero]
          exact htotal'.trans htotal
        · rw [hpending'.trans hnone, validFirst_zero]
          exact hvalid'.trans hvalid
      · cases hnext
    | stepCompleted step call stepResult terminal =>
      rw [Announcement.ofRow]
      rw [Stage.next] at hnext
      split at hnext
      · next hindex =>
        obtain ⟨rfl, rfl⟩ := hindex
        obtain rfl := Option.some.inj hnext
        have hcounters := @counters_leaves_stepCompleted sha256 decodeError telemetry writing
          (stepIndex + call + 1) call stepResult terminal
        have hleast : (Stage.reporting stepIndex call).least ≤ (Stage.reporting stepIndex (call + 1)).least := by
          rw [Stage.least, Stage.least]
          omega
        obtain ⟨hnone, htotal, hvalid⟩ := concludeDecision_counts true (stepIndex + call + 1) telemetry
        -- a later row of the batch finds no attempt pending
        have hconclude : (if call = 0 then concludeDecision true telemetry else telemetry) =
            concludeDecision true telemetry := by
          split
          · rfl
          · next hcall => rw [concludeDecision, if_pos (hpending (Nat.pos_of_ne_zero hcall))]
        rw [hconclude] at hcounters
        obtain ⟨hsteps', hpending', htotal', hvalid'⟩ := counters_eq hcounters
        refine ⟨⟨hsteps', fun _ ↦ hpending'.trans hnone⟩,
          fun h ↦ h.step hleast (labels_leaves_other rfl) ?_ ?_⟩
        · rw [hpending'.trans hnone, sampled_zero]
          exact htotal'.trans htotal
        · rw [hpending'.trans hnone, validFirst_zero]
          exact hvalid'.trans hvalid
      · cases hnext

/-- **The account of a part of an episode**, from any stage on. -/
theorem accounts_of_after {final : Stage} : ∀ {events before : List (Event A)} {stage : Stage}
    {telemetry : TelemetrySink}, stage.after events = some final → stage.Agrees telemetry →
      Accounts stage telemetry
        (afterAll sha256 decodeError telemetry (spoken.announced before events)) (firstProduced events)
        (spoken.decisions sha256 decodeError telemetry before events)
  | [], before, stage, telemetry, h, hagrees => by
    refine ⟨(List.append_nil _).symm, by simp [Spoken.decisions], List.nodup_nil, by simp [Spoken.decisions],
      ?_, ?_⟩
    · simp [afterAll, Spoken.announced, Spoken.decisions, firstProduced, sampled]
    · simp [afterAll, Spoken.announced, Spoken.decisions, firstProduced, validFirst]
  | event :: events, before, stage, telemetry, h, hagrees => by
    obtain ⟨stage', hnext, hafter⟩ := Stage.after_cons h
    have hsplit : afterAll sha256 decodeError telemetry (spoken.announced before (event :: events)) =
        afterAll sha256 decodeError (afterAll sha256 decodeError telemetry (spoken.during before event))
          (spoken.announced (before ++ [event]) events) := List.foldl_append
    rw [hsplit]
    by_cases hquiet : event.isQuiet = true
    · -- an event at which the policy may announce, but makes no attempt
      rw [Stage.next_quiet hquiet] at hnext
      obtain rfl := Option.some.inj hnext
      obtain ⟨hcounters, hlabels⟩ := @afterAll_during_quiet A sha256 decodeError spoken telemetry before
        event hquiet
      obtain ⟨hsteps, hpending, htotal, hvalid⟩ := counters_eq hcounters
      have hagrees' : stage.Agrees (afterAll sha256 decodeError telemetry (spoken.during before event)) := by
        cases stage with
        | waiting stepIndex => exact ⟨hsteps.trans hagrees.1, hpending.trans hagrees.2⟩
        | reporting stepIndex callIndex =>
          exact ⟨hsteps.trans hagrees.1, fun hpos ↦ hpending.trans (hagrees.2 hpos)⟩
      have hrest := @accounts_of_after _ events (before ++ [event]) _ _ hafter hagrees'
      have hdecisions : spoken.decisions sha256 decodeError telemetry before (event :: events) =
          spoken.decisions sha256 decodeError
            (afterAll sha256 decodeError telemetry (spoken.during before event)) (before ++ [event])
            events := by
        cases event <;> first | rfl | cases hquiet
      have hproduced : firstProduced (event :: events) = firstProduced events := by
        cases event <;> first | rfl | cases hquiet
      rw [hdecisions, hproduced]
      refine hrest.step le_rfl hlabels ?_ ?_
      · rw [htotal, hpending]
        rfl
      · rw [hvalid, hpending]
        rfl
    · cases event with
      | act answer =>
        have hspoken : ∀ a ∈ spoken.during before (.act answer),
            a.1.isAttempt = true ∨ a.1.isPolicyEvent = true := fun a ha ↦
          (spoken.onlyInAct before _ a ha).elim Or.inr fun h ↦ Or.inl h.1
        obtain ⟨stepIndex, rfl, hsteps, hpending, hleast⟩ : ∃ stepIndex,
            stage' = .reporting stepIndex 0 ∧ telemetry.stepsTaken = stepIndex ∧
              telemetry.pendingCompletions = 0 ∧ stage.least = stepIndex := by
          cases stage with
          | waiting stepIndex =>
            exact ⟨stepIndex, (Option.some.inj hnext).symm, hagrees.1, hagrees.2, rfl⟩
          | reporting stepIndex callIndex =>
            rw [Stage.next] at hnext
            split at hnext
            · next hpos =>
              refine ⟨stepIndex + callIndex, (Option.some.inj hnext).symm, hagrees.1, hagrees.2 hpos, ?_⟩
              rw [Stage.least]
              omega
            · cases hnext
        obtain ⟨hcounters, -⟩ := @afterAll_spoken sha256 decodeError _ telemetry hspoken
        have hagrees' : (Stage.reporting stepIndex 0).Agrees
            (afterAll sha256 decodeError telemetry (spoken.during before (.act answer))) :=
          ⟨(counters_eq hcounters).1.trans hsteps, fun h ↦ absurd h (lt_irrefl 0)⟩
        exact (@accounts_of_after _ events (before ++ [.act answer]) _ _ hafter hagrees').act hspoken hleast
          hsteps hpending (firstProduced_eq hafter)
      | telemetry row answer =>
        obtain ⟨hagrees', hrow⟩ := @Accounts.row A sha256 decodeError stage stage' telemetry row answer
          (spoken.writing before) hnext hagrees
        have hrest := @accounts_of_after _ events (before ++ [Event.telemetry row answer]) _ _ hafter
          hagrees'
        exact hrow hrest
      | _ => exact absurd rfl hquiet

end Episode

/-! ## Attempts without fault -/

section Safe

variable {A : Type} {sha256 decodeError : Text → Text} {spoken : Spoken A}

instance (announcement : Announcement) : Decidable announcement.ShortLiterals :=
  inferInstanceAs (Decidable (∀ completion ∈ announcement.completion?, ∀ call ∈ completion.toolCalls,
    call.ShortLiterals))

/-- Everything but the arguments of the tool calls is fine, whenever an attempt is announced. -/
def AllSafe (sha256 decodeError : Text → Text) :
    TelemetrySink → List (Announcement × Writing) → Prop
  | _, [] => True
  | telemetry, a :: announced =>
    AttemptSafe telemetry a ∧ AllSafe sha256 decodeError (Announcement.leaves sha256 decodeError a telemetry)
      announced

theorem allSafe_append : ∀ {announced announced' : List (Announcement × Writing)}
    {telemetry : TelemetrySink}, AllSafe sha256 decodeError telemetry (announced ++ announced') ↔
      AllSafe sha256 decodeError telemetry announced ∧
        AllSafe sha256 decodeError (afterAll sha256 decodeError telemetry announced) announced'
  | [], _, _ => (and_iff_right trivial).symm
  | a :: announced, announced', telemetry => by
    rw [List.cons_append, AllSafe, AllSafe, allSafe_append, afterAll_cons, and_assoc]

theorem recordedAttempts_of_safe : ∀ {announced : List (Announcement × Writing)}
    {telemetry : TelemetrySink}, AllSafe sha256 decodeError telemetry announced →
      recordedAttempts sha256 decodeError telemetry announced =
        (attemptsOf announced).map fun announcement ↦ decide announcement.ShortLiterals
  | [], _, _ => rfl
  | a :: announced, telemetry, ⟨hfirst, hrest⟩ => by
    have ih := recordedAttempts_of_safe hrest
    rw [recordedAttempts, attemptsOf, List.map_cons]
    by_cases hattempt : a.1.isAttempt = true
    · have hreturns : Announcement.returns sha256 decodeError a telemetry = decide a.1.ShortLiterals := by
        rw [Bool.eq_iff_iff, decide_eq_true_iff]
        exact returns_iff_of_safe hattempt hfirst
      rw [if_pos hattempt, List.filter_cons_of_pos hattempt, List.map_cons, ih, hreturns, attemptsOf]
    · rw [if_neg hattempt, List.filter_cons_of_neg hattempt, ih, attemptsOf]

/-- In every decision, the attempts that are recorded are those with short literals. -/
theorem recorded_of_safe : ∀ {events before : List (Event A)} {telemetry : TelemetrySink},
    AllSafe sha256 decodeError telemetry (spoken.announced before events) →
      ∀ d ∈ spoken.decisions sha256 decodeError telemetry before events,
        d.recorded = d.attempts.map fun announcement ↦ decide announcement.ShortLiterals
  | [], _, _, _ => List.forall_mem_nil _
  | event :: events, before, telemetry, h => by
    obtain ⟨hduring, hlater⟩ := allSafe_append.mp h
    have hrest := recorded_of_safe hlater
    cases event with
    | act answer => exact List.forall_mem_cons.mpr ⟨recordedAttempts_of_safe hduring, hrest⟩
    | _ => exact hrest

end Safe

/-! ## The metric -/

section Metric

/-- Later entries with other keys do not matter. -/
theorem RolloutMetrics.lookup_ofEntries_append {key : String} {entries later : List (String × ℚ)}
    (h : key ∉ later.map Prod.fst) : (RolloutMetrics.ofEntries (entries ++ later)).lookup key =
      (RolloutMetrics.ofEntries entries).lookup key := by
  rw [RolloutMetrics.ofEntries, List.foldl_append, ← RolloutMetrics.ofEntries]
  induction later using List.reverseRecOn with
  | nil => rfl
  | append_singleton later entry ih =>
    rw [List.map_append, List.mem_append, not_or] at h
    rw [List.foldl_append, List.foldl_cons, List.foldl_nil, AList.lookup_insert_ne, ih h.1]
    rintro rfl
    exact h.2 (List.mem_singleton_self _)

/-- A key of the first attempts is no other key of the telemetry. -/
theorem firstAttemptKey_notMem {key : String} (h : key ∈ [firstAttemptValidKey, firstAttemptTotalKey])
    (telemetry : RolloutTelemetry) :
    key ∉ ((match telemetry.liveLatencies with
        | none => []
        | some (calls, sum, median) => [
          (liveLlmCallsKey, (calls : ℚ)),
          (sumLiveLlmLatencySecKey, sum),
          (medianLiveLlmLatencySecKey, median)]) ++
      ((match telemetry.p25LiveRate with
        | none => []
        | some rate => [(p25LiveOutputTokensPerSecKey, rate)]) ++
      telemetry.parseFailures.map fun failure ↦ ("parse_failures." ++ failure.1, (failure.2 : ℚ)))).map
        Prod.fst := by
  have hother : ∀ other ∈ [liveLlmCallsKey, sumLiveLlmLatencySecKey, medianLiveLlmLatencySecKey,
      p25LiveOutputTokensPerSecKey], key ≠ other := by
    revert key
    decide
  have hhead : key.toList.head? = some 'f' := by
    revert key
    decide
  rw [List.map_append, List.map_append, List.mem_append, List.mem_append]
  rintro (hkey | hkey | hkey)
  · split at hkey
    · cases hkey
    · exact hother key (by simp_all) rfl
  · split at hkey
    · cases hkey
    · exact hother key (by simp_all) rfl
  · obtain ⟨entry, hentry, rfl⟩ := List.mem_map.mp hkey
    obtain ⟨failure, -, rfl⟩ := List.mem_map.mp hentry
    rw [String.toList_append] at hhead
    cases hhead

/-- Both counts are published, or neither is. -/
theorem lookup_metrics (telemetry : RolloutTelemetry) :
    telemetry.metrics.lookup firstAttemptValidKey =
        (if telemetry.firstAttemptTotal = 0 then none else some (telemetry.firstAttemptValid : ℚ)) ∧
      telemetry.metrics.lookup firstAttemptTotalKey =
        if telemetry.firstAttemptTotal = 0 then none else some (telemetry.firstAttemptTotal : ℚ) := by
  rw [RolloutTelemetry.metrics, List.append_assoc, List.append_assoc]
  have hvalid := @firstAttemptKey_notMem firstAttemptValidKey (by decide) telemetry
  have htotal := @firstAttemptKey_notMem firstAttemptTotalKey (by decide) telemetry
  refine ⟨(RolloutMetrics.lookup_ofEntries_append hvalid).trans ?_,
    (RolloutMetrics.lookup_ofEntries_append htotal).trans ?_⟩
  · split
    · rfl
    · have hne : firstAttemptValidKey ≠ firstAttemptTotalKey := by decide
      exact (AList.lookup_insert_ne hne).trans (AList.lookup_insert _)
  · split
    · rfl
    · exact AList.lookup_insert _

/-- An absent key adds nothing. -/
theorem lookup_union_of_notMem {metrics source : RolloutMetrics} {key : String} (h : key ∉ source) :
    (metrics ∪ source).lookup key = metrics.lookup key := by
  by_cases hmem : key ∈ metrics
  · exact AList.lookup_union_left hmem
  · rw [AList.lookup_union_right hmem, AList.lookup_eq_none.mpr h, AList.lookup_eq_none.mpr hmem]

theorem lookup_counted (telemetry : TelemetrySink) :
    telemetry.counted.metrics.lookup firstAttemptValidKey =
        (if telemetry.firstAttemptTotal = 0 then none else some (telemetry.firstAttemptValid : ℚ)) ∧
      telemetry.counted.metrics.lookup firstAttemptTotalKey =
        if telemetry.firstAttemptTotal = 0 then none else some (telemetry.firstAttemptTotal : ℚ) :=
  lookup_metrics telemetry.counted

theorem mergeMetrics_eq {merged source metrics : RolloutMetrics} (h : mergeMetrics merged source = .ok metrics) :
    metrics = merged ∪ source := by
  rw [mergeMetrics] at h
  split at h
  · exact (Except.ok.inj h).symm
  · cases h

/-- The record has what the telemetry publishes. -/
theorem RolloutRunner.conclude_lookup {A σ : Type} {runner : RolloutRunner A σ} {telemetry : RolloutTelemetry}
    {outcome : LoopOutcome} {closing : Option String} {result : RolloutResult} {key : String}
    (h : runner.conclude telemetry outcome closing = .ok result)
    (hsteps : key ≠ stepsUsedKey) (hreward : key ≠ rewardKey)
    (hfinal : ∀ final ∈ outcome.final, key ∉ final.metrics.toAList) :
    result.metrics.lookup key = telemetry.metrics.lookup key := by
  rw [conclude] at h
  obtain ⟨classified, -, h⟩ := bind_eq_ok h
  obtain ⟨metrics, hmetrics, h⟩ := bind_eq_ok h
  obtain ⟨metrics', hmetrics', h⟩ := bind_eq_ok h
  have hresult : result.metrics = metrics' := by
    rw [RolloutResult.create] at h
    split at h
    · split at h
      · cases h
        rfl
      · cases h
    · cases h
  have hepisode : key ∉ episodeMetrics outcome classified := fun hkey ↦
    (mem_episodeMetrics hkey).elim hsteps hreward
  rw [hresult, mergeMetrics_eq hmetrics']
  refine (lookup_union_of_notMem ?_).trans ?_
  · cases houtcome : outcome.final with
    | none => exact AList.notMem_empty key
    | some final => exact hfinal final houtcome
  · rw [mergeMetrics_eq hmetrics, AList.lookup_union_right hepisode]

end Metric

/-! ## Measured episodes -/

/-- A run of the episode loop, and what is announced during it. -/
structure MeasuredEpisode (A σ : Type) where
  u : Unicode
  world : World A
  executor : StepExecutor A σ
  maxSteps : ℕ
  stallTimeoutSec : ℚ
  /-- The rollout when the loop begins. -/
  opening : Rollout A σ
  spoken : Spoken A
  stepwise : ∃ Shows, Stepwise executor Shows
  quiet : ∀ event ∈ opening.trace, event.isQuiet = true

namespace MeasuredEpisode

variable {A σ : Type} (episode : MeasuredEpisode A σ) (sha256 decodeError : Text → Text)

def trace : List (Event A) :=
  (exec (runTaskLoop episode.u episode.world episode.executor episode.maxSteps episode.stallTimeoutSec)
    episode.opening).2.trace

def announced : List (Announcement × Writing) := episode.spoken.announced [] episode.trace

/-- The event sink after the episode. -/
def sink : TelemetrySink := afterAll sha256 decodeError {} episode.announced

def decisions : List Decision := episode.spoken.decisions sha256 decodeError {} [] episode.trace

/-- The first attempts are labelled and counted as they are made. -/
structure FirstAttempts : Prop where
  /-- Every labelled row is of a decision, and no label occurs twice. -/
  rows : attemptLabels (episode.sink sha256 decodeError).trace =
    (episode.decisions sha256 decodeError).flatMap Decision.labels
  distinct : (attemptLabels (episode.sink sha256 decodeError).trace).Nodup
  /-- An attempt that is recorded has its index, and the step that the decision produces first. -/
  ordinal : ∀ d ∈ episode.decisions sha256 decodeError, ∃ stepIndex,
    d.labels = (ordinals 0 d.recorded).map (stepIndex, ·) ∧ ∀ first ∈ d.produced, first.1 = stepIndex
  total : (episode.sink sha256 decodeError).firstAttemptTotal =
    (episode.decisions sha256 decodeError).countP fun d ↦ sampled d.attempts.length d.produced
  valid : (episode.sink sha256 decodeError).firstAttemptValid =
    (episode.decisions sha256 decodeError).countP fun d ↦ validFirst d.attempts.length d.produced
  /-- Both keys are published, or neither is. -/
  published : ((episode.sink sha256 decodeError).counted.metrics.lookup firstAttemptValidKey).isSome =
    ((episode.sink sha256 decodeError).counted.metrics.lookup firstAttemptTotalKey).isSome

/-- In every decision, the attempt indices of the rows run 0, 1, 2, ... -/
def Contiguous : Prop := ∀ d ∈ episode.decisions sha256 decodeError, ∃ n,
  d.labels.map Prod.snd = List.range n

/-- Nothing but the arguments of the tool calls is at fault. -/
def Safe : Prop := AllSafe sha256 decodeError {} episode.announced

/-- In every decision, nothing follows an attempt with a long literal but such attempts. -/
def LongLast : Prop := ∀ d ∈ episode.decisions sha256 decodeError,
  d.attempts.Pairwise fun first later ↦ later.ShortLiterals → first.ShortLiterals

variable {episode} {sha256 decodeError}

theorem accounts : Accounts (.waiting 0) {} (episode.sink sha256 decodeError)
    (firstProduced episode.trace) (episode.decisions sha256 decodeError) := by
  obtain ⟨Shows, hstep⟩ := episode.stepwise
  obtain ⟨stage, hstage⟩ := @runTaskLoop_ordered A σ episode.opening episode.u episode.world
    episode.executor Shows hstep episode.maxSteps episode.stallTimeoutSec episode.quiet
  exact accounts_of_after hstage ⟨rfl, rfl⟩

theorem firstAttempts : episode.FirstAttempts sha256 decodeError where
  rows := accounts.labels
  distinct := by
    rw [accounts.labels]
    exact accounts.distinct
  ordinal := accounts.ordinal
  total := accounts.total.trans (Nat.zero_add _)
  valid := accounts.valid.trans (Nat.zero_add _)
  published := by
    obtain ⟨hvalid, htotal⟩ := lookup_counted (episode.sink sha256 decodeError)
    rw [hvalid, htotal]
    split <;> rfl

theorem valid_le_total :
    (episode.sink sha256 decodeError).firstAttemptValid ≤ (episode.sink sha256 decodeError).firstAttemptTotal := by
  rw [firstAttempts.valid, firstAttempts.total]
  refine List.countP_mono_left fun d _ hvalid ↦ ?_
  rw [validFirst, Bool.and_eq_true, decide_eq_true_iff] at hvalid
  obtain ⟨hone, hproduced⟩ := hvalid
  rw [sampled, hone]
  cases hd : d.produced with
  | none =>
    rw [hd] at hproduced
    cases hproduced
  | some first => rfl

theorem contiguous_iff (hsafe : episode.Safe sha256 decodeError) :
    episode.Contiguous sha256 decodeError ↔ episode.LongLast sha256 decodeError := by
  refine forall₂_congr fun d hd ↦ ?_
  obtain ⟨stepIndex, hlabels, -⟩ := firstAttempts.ordinal d hd
  have hsnd : d.labels.map Prod.snd = ordinals 0 d.recorded := by
    rw [hlabels, List.map_map]
    exact List.map_id _
  have hrange : (∃ n, d.labels.map Prod.snd = List.range n) ↔ ∃ n, ordinals 0 d.recorded = List.range' 0 n := by
    rw [hsnd]
    simp only [List.range_eq_range']
  rw [hrange, ordinals_eq_range'_iff, recorded_of_safe hsafe d hd, List.pairwise_map]
  simp only [decide_eq_true_iff]

/-! ### The metric of an experiment -/

/-- The rollouts of an experiment are recorded after such episodes; an environment publishes none of the
framework's keys. -/
def Concluded (sha256 decodeError : Text → Text) (experiment : ExperimentResult)
    (episodes : TaskId → MeasuredEpisode A σ) : Prop :=
  ∀ task result, experiment.rollout? task = some result →
    ∃ (runner : RolloutRunner A σ) (outcome : LoopOutcome) (closing : Option String),
      runner.conclude ((episodes task).sink sha256 decodeError).counted outcome closing = .ok result ∧
      ∀ final ∈ outcome.final, ∀ key ∈ final.metrics.toAList, ¬FrameworkKey key

section Experiment

variable {experiment : ExperimentResult} {episodes : TaskId → MeasuredEpisode A σ}

theorem lookup_of_concluded (h : Concluded sha256 decodeError experiment episodes) {task : TaskId}
    {result : RolloutResult} (hresult : experiment.rollout? task = some result) {key : String}
    (hkey : key ∈ [firstAttemptValidKey, firstAttemptTotalKey]) :
    result.metrics.lookup key =
      ((episodes task).sink sha256 decodeError).counted.metrics.lookup key := by
  obtain ⟨runner, outcome, closing, hconclude, hfinal⟩ := h task result hresult
  have hown : key ≠ stepsUsedKey ∧ key ≠ RolloutRunner.rewardKey := by
    revert key
    decide
  have hframework : FrameworkKey key := by
    rcases List.mem_cons.mp hkey with rfl | hkey
    · exact Or.inl (by simp)
    · rw [List.mem_singleton.mp hkey]
      exact Or.inl (by simp)
  exact RolloutRunner.conclude_lookup hconclude hown.1 hown.2
    fun final hmem hpublished ↦ hfinal final hmem key hpublished hframework

theorem publishes_of_concluded (h : Concluded sha256 decodeError experiment episodes) (task : TaskId) :
    publishes experiment firstAttemptValidKey task = publishes experiment firstAttemptTotalKey task := by
  rw [publishes, publishes]
  cases hresult : experiment.rollout? task with
  | none => rfl
  | some result =>
    rw [Option.bind_some, Option.bind_some, lookup_of_concluded h hresult (by decide),
      lookup_of_concluded h hresult (by decide)]
    exact firstAttempts.published

/-- What a task with a rollout has counted. -/
theorem metricOr0_of_concluded (h : Concluded sha256 decodeError experiment episodes) (task : TaskId) :
    metricOr0 experiment firstAttemptTotalKey task - metricOr0 experiment firstAttemptValidKey task =
      if (experiment.rollout? task).isSome = true then
        (((episodes task).sink sha256 decodeError).firstAttemptTotal : ℚ) -
          ((episodes task).sink sha256 decodeError).firstAttemptValid
      else 0 := by
  rw [metricOr0, metricOr0]
  cases hresult : experiment.rollout? task with
  | none => exact sub_self 0
  | some result =>
    obtain ⟨hvalid, htotal⟩ := lookup_counted ((episodes task).sink sha256 decodeError)
    rw [Option.bind_some, Option.bind_some, lookup_of_concluded h hresult (by decide),
      lookup_of_concluded h hresult (by decide), hvalid, htotal,
      if_pos (show (some result).isSome = true from rfl)]
    have hle := @valid_le_total A σ (episodes task) sha256 decodeError
    by_cases hzero : ((episodes task).sink sha256 decodeError).firstAttemptTotal = 0
    · rw [if_pos hzero, if_pos hzero, hzero, Nat.le_zero.mp (hle.trans_eq hzero)]
      rfl
    · rw [if_neg hzero, if_neg hzero]
      rfl

/-- The metric of an experiment is the number of samples that are not valid. -/
theorem invalid_of_concluded (h : Concluded sha256 decodeError experiment episodes)
    (taskIds : Finset TaskId) :
    ∃ value, InvalidFirstAttemptsMetric.invalid experiment taskIds = .ok value ∧
      ∀ difference ∈ value, 0 ≤ difference ∧ difference =
        ∑ task ∈ taskIds, if (experiment.rollout? task).isSome = true then
          (((episodes task).sink sha256 decodeError).firstAttemptTotal : ℚ) -
            ((episodes task).sink sha256 decodeError).firstAttemptValid
        else 0 := by
  have hmalformed : (taskIds.filter fun task ↦ publishes experiment firstAttemptValidKey task ≠
      publishes experiment firstAttemptTotalKey task) = ∅ :=
    Finset.filter_eq_empty_iff.mpr fun task _ ↦ not_not.mpr (publishes_of_concluded h task)
  rw [InvalidFirstAttemptsMetric.invalid, hmalformed, Finset.sort_empty]
  dsimp only
  split
  · refine ⟨_, rfl, fun difference hdifference ↦ ?_⟩
    obtain rfl := Option.some.inj hdifference
    rw [← Finset.sum_sub_distrib]
    simp only [metricOr0_of_concluded h]
    refine ⟨Finset.sum_nonneg fun task _ ↦ ?_, trivial⟩
    split
    · exact sub_nonneg.mpr (Nat.cast_le.mpr valid_le_total)
    · exact le_rfl
  · exact ⟨none, rfl, fun _ hdifference ↦ by cases hdifference⟩

end Experiment

variable (episode sha256 decodeError)

end MeasuredEpisode

/-! ## Two episodes

A policy that asks its model for completions, and submits. -/

/-- A policy that gets these completions whenever it decides. -/
def Spoken.ofCompletions (completions : List PyCompletion) : Spoken Unit where
  policy trace := match trace.getLast? with
    | some (.act _) => completions.map fun completion ↦
      (.completionReceived [] [] completion .zero, ⟨.zero, .ok ()⟩)
    | _ => []
  writing _ := ⟨.zero, .ok ()⟩
  onlyInAct trace event a ha := by
    rw [List.getLast?_concat] at ha
    cases event with
    | act answer =>
      obtain ⟨completion, -, rfl⟩ := List.mem_map.mp ha
      exact Or.inr ⟨rfl, answer, rfl⟩
    | _ => cases ha

def submitEpisode (completions : List PyCompletion) : MeasuredEpisode Unit Unit where
  u := .ascii
  world := submitWorld (.ok ())
  executor := liveStepExecutor (submitWorld (.ok ()))
  maxSteps := 1
  stallTimeoutSec := 1200
  opening := { executor := () }
  spoken := .ofCompletions completions
  stepwise := ⟨_, stepwise_live _⟩
  quiet := List.forall_mem_nil _

/-- What a policy announces that gets these completions. -/
def receivedAll (completions : List PyCompletion) : List (Announcement × Writing) :=
  completions.map fun completion ↦ (.completionReceived [] [] completion .zero, ⟨.zero, .ok ()⟩)

theorem attemptsOf_receivedAll (completions : List PyCompletion) : attemptsOf (receivedAll completions) =
    completions.map fun completion ↦ .completionReceived [] [] completion .zero := by
  rw [attemptsOf, receivedAll, List.map_map]
  refine List.filter_eq_self.mpr fun announcement hannouncement ↦ ?_
  obtain ⟨completion, -, rfl⟩ := List.mem_map.mp hannouncement
  rfl

theorem trace_submitEpisode (completions : List PyCompletion) : ∃ row result,
    (submitEpisode completions).trace = [.reset (.ok {}), .provision (.ok ()), .policyReset {} (.ok ()),
      .act (.actions [()]), .name () (.ok "submit"), .verify (.ok passingOutcome),
      .telemetry row (.ok ()), .observe () result (.ok ())] :=
  ⟨_, _, rfl⟩

theorem announced_submitEpisode (completions : List PyCompletion) : ∃ row,
    (submitEpisode completions).announced =
      receivedAll completions ++ [(.ofRow row, ⟨.zero, .ok ()⟩)] := by
  obtain ⟨row, result, htrace⟩ := trace_submitEpisode completions
  refine ⟨row, ?_⟩
  rw [MeasuredEpisode.announced, htrace]
  rfl

theorem attempts_submitEpisode (sha256 decodeError : Text → Text) (completions : List PyCompletion) :
    ∃ d, (submitEpisode completions).decisions sha256 decodeError = [d] ∧
      d.attempts = completions.map fun completion ↦ .completionReceived [] [] completion .zero := by
  obtain ⟨row, result, htrace⟩ := trace_submitEpisode completions
  rw [MeasuredEpisode.decisions, htrace]
  exact ⟨_, rfl, attemptsOf_receivedAll completions⟩

/-- Two attempts can be announced. -/
theorem allSafe_receivedAll (row : TelemetryRow) : ∀ {completions : List PyCompletion}
    {telemetry : TelemetrySink}, telemetry.stepsTaken = 0 →
      telemetry.pendingCompletions + completions.length ≤ 2 →
      (∀ completion ∈ completions, completion.JsonSafe) →
      AllSafe noToolsDigest id telemetry (receivedAll completions ++ [(.ofRow row, ⟨.zero, .ok ()⟩)])
  | [], _, _, _, _ => ⟨by cases row <;> trivial, trivial⟩
  | completion :: completions, telemetry, hsteps, hpending, hsafe => by
    obtain ⟨hfirst, hsafe⟩ := List.forall_mem_cons.mp hsafe
    rw [List.length_cons] at hpending
    obtain ⟨hsteps', hpending', -, -⟩ := counters_eq (@counters_leaves_attempt noToolsDigest id
      (.completionReceived [] [] completion .zero, ⟨.zero, .ok ()⟩) telemetry rfl)
    refine ⟨⟨hfirst, List.forall_mem_nil _, List.forall_mem_nil _, ?_, ?_, rfl⟩, ?_⟩
    · rw [hsteps]
      exact requestSafe_first.stepIndex
    · intro digits hdigits
      have hone : telemetry.pendingCompletions = 0 ∨ telemetry.pendingCompletions = 1 := by omega
      rw [List.mem_singleton.mp hdigits]
      rcases hone with hone | hone
      · rw [hone]
        decide
      · rw [hone]
        decide
    · exact allSafe_receivedAll row (hsteps'.trans hsteps) (by rw [hpending']; dsimp only; omega) hsafe

theorem safe_submitEpisode {completions : List PyCompletion} (hlength : completions.length ≤ 2)
    (hsafe : ∀ completion ∈ completions, completion.JsonSafe) :
    (submitEpisode completions).Safe noToolsDigest id := by
  obtain ⟨row, hannounced⟩ := announced_submitEpisode completions
  rw [MeasuredEpisode.Safe, hannounced]
  exact allSafe_receivedAll row rfl (by rwa [Nat.zero_add]) hsafe

theorem longLast_submitEpisode {completions : List PyCompletion} :
    (submitEpisode completions).LongLast noToolsDigest id ↔ completions.Pairwise fun first later ↦
      (∀ call ∈ later.toolCalls, call.ShortLiterals) → ∀ call ∈ first.toolCalls, call.ShortLiterals := by
  obtain ⟨d, hdecisions, hattempts⟩ := attempts_submitEpisode noToolsDigest id completions
  rw [MeasuredEpisode.LongLast, hdecisions, List.forall_mem_singleton, hattempts, List.pairwise_map]
  have hshort : ∀ completion : PyCompletion, (Announcement.completionReceived [] [] completion
      .zero).ShortLiterals ↔ ∀ call ∈ completion.toolCalls, call.ShortLiterals := fun completion ↦
    ⟨fun h ↦ h completion rfl, fun h completion' hcompletion ↦ Option.some.inj hcompletion ▸ h⟩
  simp only [hshort]

end HarnessTraining
