import HarnessTraining.Policy.Window

/-!
# What a fitted request is

The window drops the oldest groups of what the builder renders.  The floor is the index of the newest
executed step, so that step stays; a group is dropped or kept as a whole, so a tool message still
follows its call.

* `RenderedGroups` — the groups of a trajectory;
* `assemble_spec` — what `assemble` returns;
* `fit_assemble` — a fitted request is a well-formed suffix of the history.
-/

set_option autoImplicit false

namespace HarnessTraining

open StateExcept

/-! ## Call ids -/

theorem ofDigits_replicate (n : ℕ) (digits : List Char) :
    Json.ofDigits (List.replicate n '0' ++ digits) = Json.ofDigits digits := by
  induction n with
  | zero => rfl
  | succ n ih => rwa [List.replicate_succ, List.cons_append, Json.ofDigits, List.foldl_cons]

theorem ofDigits_fourDigits (n : ℕ) : Json.ofDigits (fourDigits n) = n := by
  rw [fourDigits, ofDigits_replicate, Json.renderNat, Json.ofDigits_decDigits le_rfl]

theorem callId_injective : Function.Injective callId := by
  intro m n h
  have hdigits : fourDigits m = fourDigits n := by
    have := congrArg String.toList h
    simpa [callId] using this
  rw [← ofDigits_fourDigits m, hdigits, ofDigits_fourDigits]

/-! ## The groups of a trajectory -/

/-- The group of a step: the call of an executed action and its result, or what a failed step says. -/
inductive GroupOf (stepIndex : ℕ) : TrajectoryStep → List Message → Prop
  | executed (action : PolicyAction) (raw : RawEnvOutput) (call : ReplayedCall) (result : String)
      (hid : call.id = callId stepIndex) :
      GroupOf stepIndex (.executed action raw) [
        { role := .assistant, content := none, toolCalls := [call] },
        { role := .tool, content := some result, toolCallId := some call.id }]
  | failed (step : FailedStep) (text : String) :
      GroupOf stepIndex (.failed step) [{ role := .user, content := some text }]

/-- The groups of the steps from `stepIndex` on. -/
inductive RenderedGroups : ℕ → Trajectory → List (List Message) → Prop
  | nil (stepIndex : ℕ) : RenderedGroups stepIndex [] []
  | cons {stepIndex : ℕ} {step : TrajectoryStep} {group : List Message} {rest : Trajectory}
      {groups : List (List Message)} (hgroup : GroupOf stepIndex step group)
      (hrest : RenderedGroups (stepIndex + 1) rest groups) :
      RenderedGroups stepIndex (step :: rest) (group :: groups)

theorem RenderedGroups.length {stepIndex : ℕ} {steps : Trajectory} {groups : List (List Message)}
    (h : RenderedGroups stepIndex steps groups) : groups.length = steps.length := by
  induction h with
  | nil => rfl
  | cons _ _ ih => rw [List.length_cons, List.length_cons, ih]

theorem RenderedGroups.drop {stepIndex : ℕ} {steps : Trajectory} {groups : List (List Message)}
    (h : RenderedGroups stepIndex steps groups) :
    ∀ n, RenderedGroups (stepIndex + n) (steps.drop n) (groups.drop n) := by
  induction h with
  | nil stepIndex =>
    intro n
    rw [List.drop_nil, List.drop_nil]
    exact .nil _
  | @cons stepIndex step group rest groups hgroup hrest ih =>
    intro n
    cases n with
    | zero => exact .cons hgroup hrest
    | succ n =>
      rw [List.drop_succ_cons, List.drop_succ_cons, Nat.add_comm n, ← Nat.add_assoc]
      exact ih n

/-- The ids of the calls of a request. -/
def callIds (messages : List Message) : List String :=
  messages.flatMap fun message ↦ message.toolCalls.map ReplayedCall.id

/-- A tool message immediately follows the assistant message that carries the call with its id. -/
def Paired (messages : List Message) : Prop :=
  ∀ earlier message later, messages = earlier ++ message :: later → message.role = .tool →
    ∃ before request call, earlier = before ++ [request] ∧ request.role = .assistant ∧
      request.toolCalls = [call] ∧ message.toolCallId = some call.id

theorem callIds_append (ms ms' : List Message) : callIds (ms ++ ms') = callIds ms ++ callIds ms' :=
  List.flatMap_append

/-- A list without a tool message in front of a paired one. -/
theorem Paired.append {ms ms' : List Message} (hms : ∀ m ∈ ms, m.role ≠ .tool) (h : Paired ms') :
    Paired (ms ++ ms') := by
  intro earlier message later hsplit htool
  rcases List.append_eq_append_iff.mp hsplit with ⟨middle, rfl, hrest⟩ | ⟨middle, rfl, hrest⟩
  · obtain ⟨before, request, call, rfl, hcall⟩ := h middle message later hrest htool
    exact ⟨ms ++ before, request, call, (List.append_assoc _ _ _).symm, hcall⟩
  · cases middle with
    | nil =>
      obtain ⟨before, request, call, hnil, -⟩ := h [] message later hrest.symm htool
      simp at hnil
    | cons m middle =>
      obtain rfl : message = m := (List.cons.inj hrest).1
      exact absurd htool (hms message (by simp))

theorem RenderedGroups.paired {stepIndex : ℕ} {steps : Trajectory} {groups : List (List Message)}
    (h : RenderedGroups stepIndex steps groups) : Paired groups.flatten := by
  induction h with
  | nil =>
    intro earlier message later hsplit
    simp at hsplit
  | @cons stepIndex step group rest groups hgroup hrest ih =>
    rw [List.flatten_cons]
    cases hgroup with
    | failed step text => exact Paired.append (by simp) ih
    | executed action raw call result hid =>
      intro earlier message later hsplit htool
      rcases earlier with - | ⟨request, - | ⟨answer, earlier⟩⟩
      · obtain rfl := (List.cons.inj hsplit).1
        cases htool
      · obtain ⟨hrequest, hsplit⟩ := List.cons.inj hsplit
        obtain rfl := (List.cons.inj hsplit).1
        exact ⟨[], request, call, rfl, by rw [← hrequest], by rw [← hrequest], rfl⟩
      · obtain ⟨-, hsplit⟩ := List.cons.inj hsplit
        obtain ⟨-, hsplit⟩ := List.cons.inj hsplit
        obtain ⟨before, request, call', rfl, hcall⟩ := ih earlier message later hsplit htool
        exact ⟨_ :: _ :: before, request, call', rfl, hcall⟩

theorem RenderedGroups.mem_callIds {stepIndex : ℕ} {steps : Trajectory} {groups : List (List Message)}
    (h : RenderedGroups stepIndex steps groups) :
    ∀ id ∈ callIds groups.flatten, ∃ n, stepIndex ≤ n ∧ id = callId n := by
  induction h with
  | nil =>
    intro id hid
    cases hid
  | @cons stepIndex step group rest groups hgroup hrest ih =>
    intro id hid
    rw [List.flatten_cons, callIds_append] at hid
    rcases List.mem_append.mp hid with hid | hid
    · cases hgroup with
      | failed step text => cases hid
      | executed action raw call result hcall =>
        obtain rfl : id = call.id := by simpa [callIds] using hid
        exact ⟨stepIndex, le_rfl, hcall⟩
    · obtain ⟨n, hn, rfl⟩ := ih id hid
      exact ⟨n, by omega, rfl⟩

theorem RenderedGroups.nodup_callIds {stepIndex : ℕ} {steps : Trajectory} {groups : List (List Message)}
    (h : RenderedGroups stepIndex steps groups) : (callIds groups.flatten).Nodup := by
  induction h with
  | nil => exact List.nodup_nil
  | @cons stepIndex step group rest groups hgroup hrest ih =>
    rw [List.flatten_cons, callIds_append]
    cases hgroup with
    | failed step text => exact ih
    | executed action raw call result hid =>
      refine List.nodup_cons.mpr ⟨fun hmem ↦ ?_, ih⟩
      obtain ⟨n, hn, hcall⟩ := hrest.mem_callIds call.id hmem
      have := callId_injective (hid.symm.trans hcall)
      omega

/-! ## What `assemble` returns -/

namespace RequestBuilder

variable {builder : RequestBuilder}

/-- The marker is shorter than what it marks. -/
def MarkerFits (builder : RequestBuilder) : Prop :=
  ∀ counter ∈ builder.tokenCounter, counter.count TRUNCATION_MARKER ≤ ARG_TOKEN_LIMIT

theorem exists_bounded {tokenLimit : ℕ} (hmarker : builder.MarkerFits)
    (hlimit : ARG_TOKEN_LIMIT ≤ tokenLimit) (text : String) (charLimit : ℕ) :
    ∃ clipped, builder.bounded text tokenLimit charLimit = .ok clipped := by
  rw [bounded]
  cases hcounter : builder.tokenCounter with
  | some counter => exact counter.exists_truncate ((hmarker counter hcounter).trans hlimit) text
  | none =>
    dsimp only
    split
    · exact ⟨_, rfl⟩
    · exact ⟨_, rfl⟩

theorem exists_clip (hmarker : builder.MarkerFits) (text : String) :
    ∃ clipped, builder.clip text = .ok clipped :=
  exists_bounded hmarker (by decide) text _

theorem exists_streamLines (hmarker : builder.MarkerFits) (name text : String) :
    ∃ lines, builder.streamLines name text = .ok lines := by
  rw [streamLines]
  split
  · exact ⟨_, rfl⟩
  · obtain ⟨clipped, hclip⟩ := exists_clip hmarker (rstripNewlines text)
    rw [hclip]
    exact ⟨_, rfl⟩

theorem exists_toolResult (hmarker : builder.MarkerFits) (raw : RawEnvOutput) :
    ∃ text, builder.toolResult raw = .ok text := by
  obtain ⟨stdout, hstdout⟩ := exists_streamLines hmarker "stdout" raw.stdout
  obtain ⟨stderr, hstderr⟩ := exists_streamLines hmarker "stderr" raw.stderr
  rw [toolResult, hstdout, hstderr]
  exact ⟨_, rfl⟩

theorem exists_clipArg (hmarker : builder.MarkerFits) (arg : String × Json) :
    ∃ clipped, builder.clipArg arg = .ok clipped := by
  rw [clipArg.eq_def]
  split
  · next key text =>
    obtain ⟨clipped, hclip⟩ := exists_bounded hmarker le_rfl text ARG_CHAR_LIMIT
    rw [hclip]
    exact ⟨_, rfl⟩
  · exact ⟨_, rfl⟩

theorem exists_mapM_clipArg (hmarker : builder.MarkerFits) :
    ∀ args : List (String × Json), ∃ clipped, args.mapM builder.clipArg = .ok clipped
  | [] => ⟨[], rfl⟩
  | arg :: args => by
    obtain ⟨clipped, hclip⟩ := exists_clipArg hmarker arg
    obtain ⟨rest, hrest⟩ := exists_mapM_clipArg hmarker args
    rw [List.mapM_cons, hclip, ok_bind, hrest]
    exact ⟨_, rfl⟩

theorem stepGroup_spec (hmarker : builder.MarkerFits) (stepIndex : ℕ) (step : TrajectoryStep) :
    ∃ group, builder.stepGroup stepIndex step = .ok group ∧ GroupOf stepIndex step group := by
  cases step with
  | failed step =>
    obtain ⟨clipped, hclip⟩ := exists_clip hmarker step.error
    rw [stepGroup, failedStepResult, hclip]
    exact ⟨_, rfl, .failed step _⟩
  | executed action raw =>
    obtain ⟨args, hargs⟩ := exists_mapM_clipArg hmarker action.args.modelDump
    obtain ⟨result, hresult⟩ := exists_toolResult hmarker raw
    rw [stepGroup, replayToolCall, hargs, hresult]
    exact ⟨_, rfl, .executed action raw _ result rfl⟩

/-- The index of the newest executed step, if there is one. -/
def newest? : Trajectory → Option ℕ
  | [] => none
  | step :: rest =>
    match newest? rest with
    | some n => some (n + 1)
    | none => if step.isExecuted then some 0 else none

theorem assembleSteps_spec (hmarker : builder.MarkerFits) :
    ∀ (steps : Trajectory) (stepIndex : ℕ) (groups : List (List Message)) (newest : ℤ),
      ∃ rendered, builder.assembleSteps stepIndex steps groups newest =
          .ok (groups ++ rendered, ((newest? steps).map fun n : ℕ ↦ ((groups.length + n : ℕ) : ℤ)).getD newest) ∧
        RenderedGroups stepIndex steps rendered
  | [], stepIndex, groups, newest => ⟨[], by rw [List.append_nil]; rfl, .nil stepIndex⟩
  | step :: rest, stepIndex, groups, newest => by
    obtain ⟨group, hgroup, hof⟩ := stepGroup_spec hmarker stepIndex step
    obtain ⟨rendered, hrest, hrendered⟩ := assembleSteps_spec hmarker rest (stepIndex + 1)
      (groups ++ [group]) (if step.isExecuted then groups.length else newest)
    refine ⟨group :: rendered, ?_, .cons hof hrendered⟩
    rw [assembleSteps, hgroup, ok_bind, hrest, List.append_assoc, List.singleton_append, newest?]
    congr 2
    cases newest? rest with
    | some n =>
      simp only [Option.map_some, Option.getD_some, List.length_append, List.length_singleton]
      omega
    | none =>
      cases step.isExecuted with
      | true => simp
      | false => simp

/-- The retention floor of a trajectory: its newest executed step or, with none, its newest step. -/
def floorOf (trajectory : Trajectory) : ℤ :=
  ((newest? trajectory).map fun n : ℕ ↦ (n : ℤ)).getD (trajectory.length - 1)

theorem assemble_spec (hmarker : builder.MarkerFits) (instruction : String)
    (workingDir : Option String) (trajectory : Trajectory) :
    ∃ stepGroups, builder.assemble instruction workingDir trajectory =
        .ok (head instruction workingDir, stepGroups, floorOf trajectory) ∧
      RenderedGroups 1 trajectory stepGroups := by
  obtain ⟨rendered, hsteps, hrendered⟩ := assembleSteps_spec hmarker trajectory 1 [] (-1)
  refine ⟨rendered, ?_, hrendered⟩
  rw [assemble, hsteps, ok_bind, List.nil_append]
  dsimp only
  rw [hrendered.length, floorOf]
  cases newest? trajectory with
  | some n =>
    simp
    rfl
  | none =>
    simp
    rfl

end RequestBuilder

/-! ## Fitted requests -/

/-- The newest executed step or, with none, the newest step. -/
def Newest (trajectory : Trajectory) (n : ℕ) : Prop :=
  (∃ step, trajectory[n]? = some step ∧ step.isExecuted = true ∧
      ∀ later ∈ trajectory.drop (n + 1), later.isExecuted = false) ∨
    (∀ step ∈ trajectory, step.isExecuted = false) ∧ n + 1 = trajectory.length

theorem newest?_eq_none : ∀ {trajectory : Trajectory}, RequestBuilder.newest? trajectory = none →
    ∀ step ∈ trajectory, step.isExecuted = false
  | [], _, _, hstep => by cases hstep
  | step :: rest, h, step', hstep => by
    rw [RequestBuilder.newest?] at h
    cases hrest : RequestBuilder.newest? rest with
    | some n =>
      rw [hrest] at h
      cases h
    | none =>
      rw [hrest] at h
      dsimp only at h
      split at h
      · cases h
      · next hexecuted =>
        rcases List.mem_cons.mp hstep with rfl | hstep
        · simpa using hexecuted
        · exact newest?_eq_none hrest step' hstep

theorem newest?_eq_some : ∀ {trajectory : Trajectory} {n : ℕ},
    RequestBuilder.newest? trajectory = some n →
      ∃ step, trajectory[n]? = some step ∧ step.isExecuted = true ∧
        ∀ later ∈ trajectory.drop (n + 1), later.isExecuted = false
  | [], n, h => by cases h
  | step :: rest, n, h => by
    rw [RequestBuilder.newest?] at h
    cases hrest : RequestBuilder.newest? rest with
    | some m =>
      rw [hrest] at h
      obtain rfl : m + 1 = n := Option.some.inj h
      rw [List.getElem?_cons_succ, List.drop_succ_cons]
      exact newest?_eq_some hrest
    | none =>
      rw [hrest] at h
      dsimp only at h
      split at h
      · next hexecuted =>
        obtain rfl : 0 = n := Option.some.inj h
        exact ⟨step, rfl, hexecuted, newest?_eq_none hrest⟩
      · cases h

theorem mem_drop_of_getElem? {α : Type} {xs : List α} {x : α} {m n : ℕ} (h : xs[n]? = some x)
    (hlt : m < n) : x ∈ xs.drop (m + 1) := by
  refine List.mem_of_getElem? (i := n - (m + 1)) ?_
  rw [List.getElem?_drop, show m + 1 + (n - (m + 1)) = n by omega]
  exact h

/-- The floor keeps the newest executed step. -/
theorem floorOf_eq {trajectory : Trajectory} {n : ℕ} (h : Newest trajectory n) :
    RequestBuilder.floorOf trajectory = n := by
  rw [RequestBuilder.floorOf]
  cases hnewest : RequestBuilder.newest? trajectory with
  | some m =>
    obtain ⟨step, hstep, hexecuted, hlater⟩ := newest?_eq_some hnewest
    rcases h with ⟨step', hstep', hexecuted', hlater'⟩ | ⟨hnone, -⟩
    · rcases lt_trichotomy m n with hlt | rfl | hlt
      · exact absurd hexecuted' (by simp [hlater step' (mem_drop_of_getElem? hstep' hlt)])
      · rfl
      · exact absurd hexecuted (by simp [hlater' step (mem_drop_of_getElem? hstep hlt)])
    · exact absurd hexecuted (by simp [hnone step (List.mem_of_getElem? hstep)])
  | none =>
    have hnone := newest?_eq_none hnewest
    rcases h with ⟨step, hstep, hexecuted, -⟩ | ⟨-, hlength⟩
    · exact absurd hexecuted (by simp [hnone step (List.mem_of_getElem? hstep)])
    · rw [Option.map_none, Option.getD_none]
      omega

theorem floorOf_le (trajectory : Trajectory) :
    RequestBuilder.floorOf trajectory ≤ trajectory.length := by
  rw [RequestBuilder.floorOf]
  cases hnewest : RequestBuilder.newest? trajectory with
  | some n =>
    obtain ⟨step, hstep, -⟩ := newest?_eq_some hnewest
    obtain ⟨hlt, -⟩ := List.getElem?_eq_some_iff.mp hstep
    rw [Option.map_some, Option.getD_some]
    omega
  | none =>
    rw [Option.map_none, Option.getD_none]
    omega

/-- What a request shows of a trajectory: the head, a note if steps were dropped, and the groups of
the steps that were not. -/
structure WellFormedRequest (window : ContextWindow) (head : List Message) (trajectory : Trajectory)
    (stepGroups : List (List Message)) (floor : ℤ) (turnMessages messages : List Message)
    (dropped : ℕ) : Prop where
  groups : RenderedGroups 1 trajectory stepGroups
  suffix : messages = head ++ (if dropped = 0 then [] else [ContextWindow.omittedNote dropped]) ++
    (stepGroups.drop dropped).flatten
  /-- The floor is the newest executed step. -/
  retained : ∀ n, Newest trajectory n → floor = n
  newest : ∀ n, Newest trajectory n → dropped ≤ n
  paired : Paired messages
  unique : (callIds messages).Nodup
  /-- No fewer groups could be dropped, short of the floor. -/
  least : IsLeast {n : ℕ | floor ≤ n ∨
    (window.suffixTokens stepGroups n : ℚ) ≤ window.stepBudget head turnMessages} dropped

theorem head_not_tool (instruction : String) (workingDir : Option String) (dropped : ℕ) :
    ∀ m ∈ RequestBuilder.head instruction workingDir ++
      (if dropped = 0 then [] else [ContextWindow.omittedNote dropped]),
      m.role ≠ .tool ∧ m.toolCalls = [] := by
  intro m hm
  rcases List.mem_append.mp hm with hm | hm
  · rcases List.mem_cons.mp hm with rfl | hm
    · exact ⟨(by rintro ⟨⟩), rfl⟩
    · obtain rfl := List.mem_singleton.mp hm
      exact ⟨(by rintro ⟨⟩), rfl⟩
  · split at hm
    · cases hm
    · obtain rfl := List.mem_singleton.mp hm
      exact ⟨(by rintro ⟨⟩), rfl⟩

/-- **Every fitted request is a well-formed suffix of the history.** -/
theorem fit_assemble {builder : RequestBuilder} (hmarker : builder.MarkerFits)
    (window : ContextWindow) (instruction : String) (workingDir : Option String)
    (trajectory : Trajectory) (turnMessages : List Message) :
    ∃ stepGroups floor messages dropped,
      builder.assemble instruction workingDir trajectory =
        .ok (RequestBuilder.head instruction workingDir, stepGroups, floor) ∧
      window.fit (RequestBuilder.head instruction workingDir) stepGroups floor turnMessages =
        .ok (messages, dropped) ∧
      WellFormedRequest window (RequestBuilder.head instruction workingDir) trajectory stepGroups floor
        turnMessages messages dropped := by
  obtain ⟨stepGroups, hassemble, hrendered⟩ :=
    RequestBuilder.assemble_spec hmarker instruction workingDir trajectory
  have hfloor : RequestBuilder.floorOf trajectory ≤ stepGroups.length := by
    rw [hrendered.length]
    exact floorOf_le trajectory
  obtain ⟨messages, dropped, hfit⟩ := ContextWindow.exists_fit window
    (RequestBuilder.head instruction workingDir) turnMessages hfloor
  obtain ⟨hstops, rfl⟩ := ContextWindow.fit_eq.mp hfit
  have hkept := hrendered.drop dropped
  have hhead := head_not_tool instruction workingDir dropped
  refine ⟨stepGroups, _, _, dropped, hassemble, hfit, hrendered, rfl, fun n hn ↦ floorOf_eq hn,
    fun n hn ↦ ?_, Paired.append (fun m hm ↦ (hhead m hm).1) hkept.paired, ?_, hstops.isLeast⟩
  · by_contra hlt
    have := (hstops.least n (not_le.mp hlt)).1
    rw [floorOf_eq hn] at this
    exact lt_irrefl _ this
  · rw [ContextWindow.fitted, callIds_append]
    have hnone : callIds (RequestBuilder.head instruction workingDir ++
        (if dropped = 0 then [] else [ContextWindow.omittedNote dropped])) = [] :=
      List.flatMap_eq_nil_iff.mpr fun m hm ↦ by rw [(hhead m hm).2]; rfl
    rw [hnone]
    exact hkept.nodup_callIds

/-! ## A history of two steps -/

def characterBuilder : RequestBuilder := { tokenCounter := some characterCounter }

def twoSteps : Trajectory := [
  .executed ⟨.run, .run { command := "ls", nonempty := by decide, positive := by decide }⟩
    { stdout := "a.py" },
  .failed ⟨3, "missing tool call"⟩]

/-- The failed step trails the one that stays. -/
theorem fit_assemble_twoSteps : ∃ stepGroups floor messages dropped,
    characterBuilder.assemble "Fix the bug." none twoSteps =
      .ok (RequestBuilder.head "Fix the bug." none, stepGroups, floor) ∧
    tightWindow.fit (RequestBuilder.head "Fix the bug." none) stepGroups floor [] =
      .ok (messages, dropped) ∧
    WellFormedRequest tightWindow (RequestBuilder.head "Fix the bug." none) twoSteps stepGroups floor
      [] messages dropped := by
  refine fit_assemble ?_ tightWindow "Fix the bug." none twoSteps []
  rintro counter ⟨⟩
  decide

end HarnessTraining
