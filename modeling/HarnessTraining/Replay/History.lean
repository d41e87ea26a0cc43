import HarnessTraining.Library.SharedStore
import HarnessTraining.Replay.Keeping

/-!
# Rollouts over one store

Any number of rollouts under the step cache, interleaved over one store in which the first write of a
key wins.  Reads and writes may fail open, and a rollout may be cut short at any call.

* `Shared.lawful` — every access to the store is lawful, in every interleaving.
* `Shared.provenance` — what is served was recorded after a live execution on the same chain.
* `Shared.live_only` — a stored marker keeps a chain and its extensions from being served.
-/

set_option autoImplicit false

namespace HarnessTraining

open StateExcept SharedStore

/-- A rollout under the step cache. -/
structure ReplayedRollout (A : Type) where
  scope : ReplayScope
  world : World A
  maxSteps : ℕ
  stallTimeoutSec : ℚ

/-- Everything that a rollout exchanges with the outside until it ends. -/
def ReplayedRollout.trace {A : Type} (u : Unicode) (hexdigest : Hexdigest)
    (rollout : ReplayedRollout A) : List (Event A) :=
  (exec (runTaskLoop u rollout.world
    (ReplayCache.executor u hexdigest rollout.scope rollout.world) rollout.maxSteps
    rollout.stallTimeoutSec) { executor := .new hexdigest rollout.scope }).2.trace

/-- How the events of a rollout access the store. -/
def storeAccess {A : Type} : Access (Event A) where
  put?
    | .put key value (.ok ()) => some (key, value, true)
    | .put key value (.error _) => some (key, value, false)
    | _ => none
  get?
    | .get key (.ok value) => some (key, value)
    | _ => none

/-- A history of rollouts over one store; a rollout may still be in progress. -/
structure Shared {ι A : Type} [DecidableEq ι] (u : Unicode) (hexdigest : Hexdigest)
    (rollouts : ι → ReplayedRollout A) (history : List (Occurrence ι (Event A))) : Prop where
  runs : ∀ i, projection i history <+: (rollouts i).trace u hexdigest
  store : Consistent storeAccess history

section Readings

variable {A : Type} {u : Unicode} {hexdigest : Hexdigest} {scope scope' : ReplayScope}
  {trace : List (Event A)} {actions : List EnvAction}

theorem exists_put {event : Event A} {key value : String} {acknowledged : Bool}
    (h : storeAccess.put? event = some (key, value, acknowledged)) :
    ∃ answer, event = .put key value answer := by
  cases event with
  | put key' value' answer =>
    cases answer <;> cases h <;> exact ⟨_, rfl⟩
  | _ => cases h

/-- A row is written only for a live execution on its chain. -/
theorem EventOk.recorded {text : String} {answer : Answer Unit}
    (h : EventOk u hexdigest scope trace (.put (stepKey hexdigest scope' actions) text answer)) :
    scope' = scope ∧ ∃ first action result, actions = first ++ [action] ∧
      text = serializeStepResult result ∧ Recorded u hexdigest scope trace first action result := by
  generalize hevent : Event.put (stepKey hexdigest scope' actions) text answer = event at h
  cases h with
  | other event hother =>
    rw [← hevent] at hother
    cases hother
  | mark actions' result answer' hserved =>
    obtain ⟨hkey, -, -⟩ := Event.put.inj hevent
    exact absurd hkey.symm (blockedKey_ne_stepKey _)
  | record first action result answer' hrecorded =>
    obtain ⟨hkey, htext, -⟩ := Event.put.inj hevent
    obtain ⟨hscope, hactions⟩ := stepKey_inj.mp hkey
    exact ⟨hscope, first, action, result, hactions, htext, hrecorded⟩
  | _ => cases hevent

/-- A row is read when its chain is what has been requested, all of it was served and its marker was
not found; or once more after it was served. -/
theorem EventOk.read {answer : Answer (Option String)}
    (h : EventOk u hexdigest scope trace (.get (stepKey hexdigest scope' actions) answer)) :
    scope' = scope ∧
      ((∃ first action, actions = first ++ [action] ∧ requests trace = actions ∧
          ServedAll hexdigest scope trace first ∧ Unmarked hexdigest scope trace actions) ∨
        ∃ result, actions.length < (requests trace).length ∧
          ServedAt hexdigest scope trace actions result) := by
  generalize hevent : Event.get (stepKey hexdigest scope' actions) answer = event at h
  cases h with
  | other event hother =>
    rw [← hevent] at hother
    cases hother
  | readMarker first action answer' hrequested hserved =>
    obtain ⟨hkey, -⟩ := Event.get.inj hevent
    exact absurd hkey.symm (blockedKey_ne_stepKey _)
  | readRow first action answer' hrequested hserved hunmarked =>
    obtain ⟨hkey, -⟩ := Event.get.inj hevent
    obtain ⟨rfl, rfl⟩ := stepKey_inj.mp hkey
    exact ⟨rfl, Or.inl ⟨first, action, rfl, hrequested, hserved, hunmarked⟩⟩
  | reread actions' result answer' hshorter hserved =>
    obtain ⟨hkey, -⟩ := Event.get.inj hevent
    obtain ⟨rfl, rfl⟩ := stepKey_inj.mp hkey
    exact ⟨rfl, Or.inr ⟨result, hshorter, hserved⟩⟩
  | _ => cases hevent

/-- A marker is looked for when its chain is what has been requested. -/
theorem EventOk.looked {answer : Answer (Option String)}
    (h : EventOk u hexdigest scope trace
      (.get (blockedKey (stepKey hexdigest scope' actions)) answer)) :
    requests trace = actions := by
  generalize hevent :
    Event.get (blockedKey (stepKey hexdigest scope' actions)) answer = event at h
  cases h with
  | other event hother =>
    rw [← hevent] at hother
    cases hother
  | readMarker first action answer' hrequested hserved =>
    obtain ⟨hkey, -⟩ := Event.get.inj hevent
    obtain ⟨-, rfl⟩ := stepKey_inj.mp (blockedKey_inj.mp hkey)
    exact hrequested
  | readRow first action answer' hrequested hserved hunmarked =>
    obtain ⟨hkey, -⟩ := Event.get.inj hevent
    exact absurd hkey (blockedKey_ne_stepKey _)
  | reread actions' result answer' hshorter hserved =>
    obtain ⟨hkey, -⟩ := Event.get.inj hevent
    exact absurd hkey (blockedKey_ne_stepKey _)
  | _ => cases hevent

end Readings

section History

variable {ι A : Type} [DecidableEq ι] {u : Unicode} {hexdigest : Hexdigest}
  {rollouts : ι → ReplayedRollout A} {history : List (Occurrence ι (Event A))}

theorem ReplayedRollout.honest (rollout : ReplayedRollout A) :
    Honest u hexdigest rollout.scope (rollout.trace u hexdigest) := by
  have hkept : wp (runTaskLoop u rollout.world
        (ReplayCache.executor u hexdigest rollout.scope rollout.world) rollout.maxSteps
        rollout.stallTimeoutSec)
      (fun _ s ↦ Honest u hexdigest rollout.scope s.trace)
      (fun _ s ↦ Honest u hexdigest rollout.scope s.trace)
      { executor := .new hexdigest rollout.scope } :=
    wp_mono (ReplayCache.runTaskLoop_kept _ _) (fun _ _ h ↦ h.1.1) fun _ _ h ↦ h.1
  exact wp_left hkept

variable (h : Shared u hexdigest rollouts history)

include h

/-- **Every access to the store is lawful.**  The rows of submits that anybody reads are verdicts,
since somebody recorded them. -/
theorem Shared.lawful {before after : List (Occurrence ι (Event A))} {i : ι} {event : Event A}
    (hhistory : history = before ++ .exchange i event :: after) :
    EventOk u hexdigest (rollouts i).scope (projection i before) event := by
  induction hlength : before.length using Nat.strong_induction_on
    generalizing before i event after with
  | _ n ih =>
    have hrun : projection i before ++ event :: projection i after <+:
        (rollouts i).trace u hexdigest := by
      have hproject := h.runs i
      rw [hhistory, ← List.singleton_append, projection_append, projection_append,
        projection_exchange] at hproject
      exact hproject
    obtain ⟨rest, hrest⟩ := hrun
    refine (rollouts i).honest (projection i before) event (projection i after ++ rest)
      (by rw [← hrest, List.append_assoc, List.cons_append]) ?_
    intro actions text result hmem hresult
    -- the row was put by somebody, earlier
    obtain ⟨first, later, rfl⟩ := List.append_of_mem (mem_projection.mp hmem)
    obtain ⟨j, event', earlier, rest', hearlier, hshorter, acknowledged, hput⟩ := h.store.origin
      (hhistory.trans (List.append_assoc _ _ _)) rfl
    obtain ⟨answer, rfl⟩ := exists_put hput
    have hlt : earlier.length < n := by
      rw [← hlength, List.length_append]
      omega
    obtain ⟨-, before', action, result', hactions, rfl, hrecorded⟩ :=
      (ih earlier.length hlt hearlier rfl).recorded
    rw [deserialize_serialize] at hresult
    obtain rfl := Option.some.inj hresult
    obtain ⟨rfl, haction⟩ := List.append_inj' hactions rfl
    obtain rfl : EnvAction.verify = action := by simpa using haction
    cases hrecorded.lived with
    | verify _ _ outcome _ _ => rfl

end History

/-! ## Provenance -/

section Provenance

variable {ι A : Type} [DecidableEq ι] (u : Unicode) (hexdigest : Hexdigest)
  (rollouts : ι → ReplayedRollout A) (history : List (Occurrence ι (Event A)))

/-- `result` was recorded as the last step of a chain by a rollout of that scope: it executed the
step live in an environment that had executed exactly the steps before it.  Nothing kept it from
recording: the last step is one to record, and so was each step before it, when the rollout executed
it live; or the step was served to it, and its row has a provenance of its own. -/
inductive Provenance (scope : ReplayScope) : List EnvAction → EnvAction → StepResult → Prop
  | recorded (i : ι) (before after : List (Occurrence ι (Event A))) (answer : Answer Unit)
      (actions : List EnvAction) (action : EnvAction) (result : StepResult)
      (hhistory : history = before ++ .exchange i (.put
        (stepKey hexdigest scope (actions ++ [action])) (serializeStepResult result) answer) :: after)
      (hscope : (rollouts i).scope = scope)
      (hrecorded : Recorded u hexdigest scope (projection i before) actions action result)
      (hserved : ∀ first last result', ServedAt hexdigest scope (projection i before)
        (first ++ [last]) result' → Provenance scope first last result') :
      Provenance scope actions action result

/-- The step cache of a rollout reads the row of what has been requested, and serves it. -/
def Serves (i : ι) (before : List (Occurrence ι (Event A))) (actions : List EnvAction)
    (result : StepResult) : Prop :=
  ∃ text after, history = before ++ .exchange i
      (.get (stepKey hexdigest (rollouts i).scope actions) (.ok (some text))) :: after ∧
    deserialize text = some result

variable {u hexdigest rollouts history}

/-- **What is served was executed live on the same chain.**  In every interleaving, a result served
after a chain of actions was recorded by a rollout of the same namespace and epoch, which had
executed it live after exactly the actions before it. -/
theorem Shared.provenance (h : Shared u hexdigest rollouts history) {i : ι}
    {before : List (Occurrence ι (Event A))} {actions : List EnvAction} {result : StepResult}
    (hserves : Serves hexdigest rollouts history i before actions result) :
    ∃ first action, actions = first ++ [action] ∧
      Provenance u hexdigest rollouts history (rollouts i).scope first action result := by
  induction hlength : before.length using Nat.strong_induction_on
    generalizing before i actions result with
  | _ n ih =>
    obtain ⟨text, after, hhistory, hresult⟩ := hserves
    obtain ⟨j, event, earlier, rest, hearlier, hshorter, acknowledged, hput⟩ :=
      h.store.origin hhistory rfl
    obtain ⟨answer, rfl⟩ := exists_put hput
    obtain ⟨hscope, first, action, result', rfl, rfl, hrecorded⟩ := (h.lawful hearlier).recorded
    rw [deserialize_serialize] at hresult
    obtain rfl := Option.some.inj hresult
    rw [← hscope] at hrecorded
    refine ⟨first, action, rfl, .recorded j earlier rest answer first action result' hearlier
      hscope.symm hrecorded ?_⟩
    -- a step that was served to the recorder was read before
    rintro first' last result ⟨-, text', hrow, hresult⟩
    obtain ⟨earlier', later, rfl⟩ := List.append_of_mem (mem_projection.mp hrow)
    have hlt : earlier'.length < n := by
      rw [List.length_append] at hshorter
      omega
    have hsplit := hearlier.trans (List.append_assoc _ _ _)
    rw [hscope] at hsplit
    have hserves : Serves hexdigest rollouts history j earlier' (first' ++ [last]) result :=
      ⟨text', _, hsplit, hresult⟩
    obtain ⟨first'', last', hsnoc, hprovenance⟩ := ih earlier'.length hlt hserves rfl
    obtain ⟨rfl, hlast⟩ := List.append_inj' hsnoc rfl
    obtain rfl : last = last' := by simpa using hlast
    rwa [hscope]

end Provenance

/-! ## Live-only marks -/

section Marks

variable {ι A : Type} [DecidableEq ι] {u : Unicode} {hexdigest : Hexdigest}
  {rollouts : ι → ReplayedRollout A} {before after : List (Occurrence ι (Event A))} {i : ι}
  {actions : List EnvAction}

/-- A chain has a marker in the store. -/
def Marked (hexdigest : Hexdigest) (scope : ReplayScope)
    (history : List (Occurrence ι (Event A))) (actions : List EnvAction) : Prop :=
  ∃ value, stored storeAccess history (blockedKey (stepKey hexdigest scope actions)) = some value

/-- No read of the store fails. -/
def Reliable (history : List (Occurrence ι (Event A))) : Prop :=
  ∀ i key error, .exchange i (.get key (.error (.raised error))) ∉ history

/-- A rollout that reaches a chain after its marker was stored does not miss the marker. -/
theorem Shared.not_unmarked (h : Shared u hexdigest rollouts (before ++ after))
    (hmarked : Marked hexdigest (rollouts i).scope before actions)
    (hreaches : (requests (projection i before)).length < actions.length)
    (hreliable : Reliable (before ++ after)) :
    ¬Unmarked hexdigest (rollouts i).scope (projection i (before ++ after)) actions := by
  rintro ⟨answer, hmissed, hmem⟩
  obtain ⟨first, rest, hsplit⟩ := List.append_of_mem (mem_projection.mp hmem)
  -- it was looked for after the marker was stored
  have hlooked := (h.lawful hsplit).looked
  obtain ⟨more, rfl⟩ : before <+: first := by
    rcases List.append_eq_append_iff.mp hsplit with ⟨more, rfl, -⟩ | ⟨more, rfl, -⟩
    · exact ⟨more, rfl⟩
    · rw [projection_append, requests_append, hlooked, List.length_append] at hreaches
      omega
  obtain ⟨value, hvalue⟩ := hmarked
  have hstored : stored storeAccess (before ++ more)
      (blockedKey (stepKey hexdigest (rollouts i).scope actions)) = some value :=
    stored_append hvalue
  rcases hmissed with rfl | ⟨error, rfl⟩
  · cases (h.store.reads _ _ _ _ _ _ hsplit rfl).trans hstored
  · exact hreliable i _ error (mem_projection.mp hmem)

/-- A chain that is extended by some steps ends within them, or is a first part of the rest. -/
theorem snoc_eq_append_cases {first extension : List EnvAction} {action : EnvAction}
    (h : actions ++ extension = first ++ [action]) :
    actions = first ++ [action] ∨ actions <+: first := by
  rcases List.eq_nil_or_concat extension with rfl | ⟨extension, last, rfl⟩
  · exact Or.inl ((List.append_nil _).symm.trans h)
  · rw [List.concat_eq_append, ← List.append_assoc] at h
    exact Or.inr ⟨extension, (List.append_inj' h rfl).1⟩

/-- **A live-only mark covers every extension.**  Once the marker of a chain is stored, and if no
read fails, a rollout of that scope that reaches the chain afterwards never reads a row of the chain
or of an extension of it; and if it has executed nothing when it reaches it, it never records one. -/
theorem Shared.live_only (h : Shared u hexdigest rollouts (before ++ after))
    (hmarked : Marked hexdigest (rollouts i).scope before actions)
    (hreaches : (requests (projection i before)).length < actions.length)
    (hreliable : Reliable (before ++ after)) (extension : List EnvAction) :
    (∀ answer, .exchange i (.get (stepKey hexdigest (rollouts i).scope (actions ++ extension))
      answer) ∉ before ++ after) ∧
    (¬LiveBefore (projection i (before ++ after)) actions.length → ∀ value answer,
      .exchange i (.put (stepKey hexdigest (rollouts i).scope (actions ++ extension)) value
        answer) ∉ before ++ after) := by
  have hunmarked := h.not_unmarked hmarked hreaches hreliable
  have hgrown : ∀ {first rest : List (Occurrence ι (Event A))},
      before ++ after = first ++ rest → projection i first <+: projection i (before ++ after) := by
    intro first rest hsplit
    rw [hsplit, projection_append]
    exact ⟨_, rfl⟩
  obtain ⟨start, last, hsnoc⟩ : ∃ start last, actions = start ++ [last] := by
    rcases List.eq_nil_or_concat actions with rfl | ⟨start, last, rfl⟩
    · cases hreaches
    · exact ⟨start, last, List.concat_eq_append⟩
  constructor
  · intro answer hmem
    obtain ⟨first, rest, hsplit⟩ := List.append_of_mem hmem
    clear hmem
    induction hlength : first.length using Nat.strong_induction_on
      generalizing first rest answer with
    | _ n ih =>
      rcases (h.lawful hsplit).read.2 with
        ⟨first', action, hactions, -, hserved, hnotMarked⟩ | ⟨result, -, hserved⟩
      · rcases snoc_eq_append_cases hactions with hwhole | hpart
        · rw [hactions, ← hwhole] at hnotMarked
          exact hunmarked (hnotMarked.mono (hgrown hsplit))
        · obtain ⟨result, hserved⟩ := hserved start last (hsnoc ▸ hpart)
          exact hunmarked (hsnoc ▸ hserved.unmarked.mono (hgrown hsplit))
      · -- it was served before
        obtain ⟨text, hrow, -⟩ := hserved.row
        obtain ⟨earlier, later, rfl⟩ := List.append_of_mem (mem_projection.mp hrow)
        have hearlier := hsplit.trans (List.append_assoc _ _ _)
        refine ih earlier.length ?_ (.ok (some text)) earlier _ hearlier rfl
        rw [← hlength, List.length_append, List.length_cons]
        omega
  · intro hcold value answer hmem
    obtain ⟨first, rest, hsplit⟩ := List.append_of_mem hmem
    have hnever : ∀ b c, b ++ [c] = actions →
        ¬(Unmarked hexdigest (rollouts i).scope (projection i first) (b ++ [c]) ∨
          LiveBefore (projection i first) (b.length + 1)) := by
      rintro b c rfl (hnotMarked | hlive)
      · exact hunmarked (hnotMarked.mono (hgrown hsplit))
      · exact hcold (by simpa using hlive.mono (hgrown hsplit))
    obtain ⟨-, first', action, result, hactions, -, hrecorded⟩ := (h.lawful hsplit).recorded
    rcases snoc_eq_append_cases hactions with hwhole | hpart
    · exact hnever first' action hwhole.symm hrecorded.unmarked
    · rcases hrecorded.passed start last (hsnoc ▸ hpart) with ⟨result, hserved⟩ | ⟨-, hpassed⟩
      · exact hnever start last hsnoc.symm (Or.inl hserved.unmarked)
      · exact hnever start last hsnoc.symm hpassed

end Marks

/-! ## Three rollouts -/

namespace Race

/-- The action of every step. -/
def look : RunAction := { command := "ls" }

/-- A world in which the policy looks three times. -/
def lookWorld (get : List (Event Unit) → Option String)
    (execute : List (Event Unit) → RawEnvOutput) : World Unit where
  build _ := .ok none
  reset _ := .ok {}
  provision _ := .ok ()
  execute trace _ := .ok (execute trace)
  verify _ := .ok passingOutcome
  isVerifyArtifactWriter := false
  writeVerifyArtifacts _ _ := .ok ()
  get trace _ := .ok (get trace)
  put _ _ _ := .ok ()
  elapsed _ := 0
  policyReset _ _ := .ok ()
  act _ := .actions [(), (), ()]
  name _ _ := .ok "look"
  render _ _ := .ok (.run look)
  observe _ _ _ := .ok ()
  telemetry _ _ := .ok ()
  close _ := .closed none none
  writeChain _ _ := .ok ()

/-- An episode of three steps in that world. -/
def looking (get : List (Event Unit) → Option String) (execute : List (Event Unit) → RawEnvOutput) :
    ReplayedRollout Unit where
  scope := ⟨"task", 0⟩
  world := lookWorld get execute
  maxSteps := 3
  stallTimeoutSec := 1200

/-- The row of every step. -/
def lookRow : String := serializeStepResult (.ofRun {})

/-- The store has no row: every step is executed and recorded. -/
def recorder : ReplayedRollout Unit := looking (fun _ ↦ none) fun _ ↦ {}

/-- Two rows are found, and the second step no longer reproduces. -/
def drifter : ReplayedRollout Unit :=
  looking (fun trace ↦ if (trace.filter Event.isGet).length ∈ [1, 3] then some lookRow else none)
    fun trace ↦ if (calls trace).isEmpty then {} else { stdout := "x" }

theorem look_recordable : skipRecordingReason .ascii look (.ofRun {}) 0 = none := by decide +kernel

theorem look_reproduces : Unicode.ascii.scrubStepResult (some look.command) (.ofRun {}) = .ofRun {} := by
  decide +kernel

theorem look_drifts : Unicode.ascii.driftAudited (some look.command)
      (Unicode.ascii.scrubStepResult (some look.command) (.ofRun { stdout := "x" })) ≠
    Unicode.ascii.driftAudited (some look.command) (.ofRun {}) := by
  decide +kernel

section Look

variable {hexdigest : Hexdigest} {get : List (Event Unit) → Option String}
  {execute : List (Event Unit) → RawEnvOutput} {trace : List (Event Unit)} {cache : ReplayCache}
  {chain : List ChainStep} {start : List (Event Unit)}

/-- What happens before the first step. -/
def opening : List (Event Unit) :=
  [.reset (.ok {}), .policyReset {} (.ok ()), .act (.actions [(), (), ()])]

/-- The episode is at the step that was requested. -/
def requested (trace : List (Event Unit)) : List (Event Unit) :=
  trace ++ [.name () (.ok "look"), .render () (.ok (.run look))]

theorem wp_batch (room : ℕ) (actions : List Unit) {executor : StepExecutor Unit ReplayCache}
    (h : wp (executor.stepRun look)
      (fun result s' ↦ result.terminal = false ∧ ∀ chain',
        wp (executeBatch .ascii (lookWorld get execute) executor actions room)
          (fun _ s'' ↦ start <+: s''.trace) (fun _ s'' ↦ start <+: s''.trace) ⟨s'.trace, s'.executor, chain'⟩)
      (fun error s' ↦ start <+: s'.trace ∧ error ≠ .cancelled)
      ⟨requested trace, cache, chain⟩) :
    wp (executeBatch .ascii (lookWorld get execute) executor (() :: actions) (room + 1))
      (fun _ s' ↦ start <+: s'.trace) (fun _ s' ↦ start <+: s'.trace) ⟨trace, cache, chain⟩ := by
  rw [executeBatch, wp_bind, executeAction, wp_bind, wp_askPolicy]
  refine ⟨?_, fun error herror ↦ by cases herror⟩
  rintro name ⟨⟩
  rw [wp_ite]
  refine ⟨fun hsubmit ↦ absurd hsubmit (by decide), fun _ ↦ ?_⟩
  rw [wp_bind, wp_askPolicy]
  refine ⟨?_, fun error herror ↦ by cases herror⟩
  rintro rendered ⟨⟩
  rw [wp_bind, bounded, wp_tryCatch, wp_bind]
  have htrace : trace ++ [.name () (.ok "look")] ++ [.render () (.ok (.run look))] =
      requested trace := List.append_assoc _ _ _
  dsimp only [Rollout.push]
  rw [htrace]
  refine wp_mono h ?_ ?_
  · rintro result s' ⟨hrunning, hrest⟩
    rw [wp_pure, wp_bind, recordStep, wp_bind, wp_modify, wp_pure, wp_pure]
    dsimp only
    rw [terminal_scrubStepResult, hrunning, wp_ite]
    refine ⟨fun hterminal ↦ (by cases hterminal), fun _ ↦ wp_bind.mpr ?_⟩
    exact hrest _
  · rintro error s' ⟨herror, hcancelled⟩
    cases error with
    | cancelled => exact absurd rfl hcancelled
    | _ => exact herror

/-- What is known of the trace of the first batch holds of the whole rollout. -/
theorem trace_of_batch
    (h : wp (executeBatch .ascii (lookWorld get execute)
        (ReplayCache.executor .ascii hexdigest ⟨"task", 0⟩ (lookWorld get execute)) [(), (), ()] 3)
      (fun _ s' ↦ start <+: s'.trace) (fun _ s' ↦ start <+: s'.trace)
      ⟨opening, .new hexdigest ⟨"task", 0⟩, []⟩) :
    start <+: (looking get execute).trace .ascii hexdigest := by
  have hkeeps : Keeps .ascii
      (ReplayCache.executor .ascii hexdigest ⟨"task", 0⟩ (lookWorld get execute)) _ _ _ :=
    ReplayCache.keeps_prefix start
  have hclassify : ∀ error (s' : Rollout Unit ReplayCache), start <+: s'.trace →
      wp (classify error : LoopM Unit ReplayCache LoopOutcome) (fun _ s' ↦ start <+: s'.trace)
        (fun _ s' ↦ start <+: s'.trace) s' := by
    intro error s' hs'
    cases error <;> exact hs'
  have hturns : wp (turns .ascii (lookWorld get execute)
        (ReplayCache.executor .ascii hexdigest ⟨"task", 0⟩ (lookWorld get execute)) 3 1200 3 0
        none) (fun _ s' ↦ start <+: s'.trace) (fun _ s' ↦ start <+: s'.trace)
      ⟨[.reset (.ok {}), .policyReset {} (.ok ())], .new hexdigest ⟨"task", 0⟩, []⟩ := by
    rw [turns, wp_ite]
    refine ⟨fun hcap ↦ absurd hcap (by decide), fun _ ↦ ?_⟩
    rw [wp_bind, act, wp_bind, wp_perform]
    refine wp_pure.mpr (wp_bind.mpr (wp_mono h (fun batch s' hs' ↦ ?_) fun _ _ h ↦ h))
    dsimp only
    rw [if_neg (by decide)]
    exact afterBatch_invariant hkeeps _ (turns_invariant hkeeps 3 1200 2) 0 _ _ s' hs' fun _ ↦ hs'
  have hloop : wp (runTaskLoop .ascii (lookWorld get execute)
        (ReplayCache.executor .ascii hexdigest ⟨"task", 0⟩ (lookWorld get execute)) 3 1200)
      (fun _ s' ↦ start <+: s'.trace) (fun _ s' ↦ start <+: s'.trace)
      { executor := .new hexdigest ⟨"task", 0⟩ } := by
    rw [runTaskLoop, wp_tryCatch, episode, wp_bind, setup, wp_tryCatch, wp_bind, wp_perform, wp_bind,
      Answer.wp_orRaise]
    refine ⟨?_, (by rintro ⟨⟩), (by rintro error ⟨⟩)⟩
    rintro output ⟨⟩
    refine wp_bind.mpr (wp_pure.mpr (wp_pure.mpr (wp_bind.mpr (wp_askPolicy.mpr ⟨?_, ?_⟩))))
    · rintro ⟨⟩ ⟨⟩
      exact wp_mono hturns (fun _ _ h ↦ h) hclassify
    · rintro error ⟨⟩
  exact wp_left hloop

/-! ### Steps -/

/-- A step is looked up. -/
def lookedUp (key : String) (row : Option String) : List (Event Unit) :=
  [.get (blockedKey key) (.ok none), .get key (.ok row)]

/-- A step is executed and recorded. -/
def executed (key : String) : List (Event Unit) :=
  [.execute look (.ok {}), .elapsed 0, .put key lookRow (.ok ())]

variable {Q : StepResult → Rollout Unit ReplayCache → Prop}
  {E : LoopError → Rollout Unit ReplayCache → Prop}

theorem wp_executed (key : String) (hrecordable : cache.recordableChain = true)
    (hexecute : execute trace = {}) (h : Q (.ofRun {}) ⟨trace ++ executed key, cache, chain⟩) :
    wp (do
        let result ← executeEnvAction (lookWorld get execute) (.run look)
        let elapsedSec ← perform .elapsed (lookWorld get execute).elapsed
        ReplayCache.recordRun .ascii (lookWorld get execute) key look result elapsedSec
        return result) Q E ⟨trace, cache, chain⟩ := by
  have hput : trace ++ [.execute look (.ok {})] ++ [.elapsed 0] ++ [.put key lookRow (.ok ())] =
      trace ++ executed key := by
    rw [List.append_assoc, List.append_assoc]
    rfl
  have helapsed : ∀ trace, (lookWorld get execute).elapsed trace = 0 := fun _ ↦ rfl
  refine wp_bind.mpr (ReplayCache.wp_executeRun.mpr ⟨?_, (by rintro ⟨⟩), (by rintro error ⟨⟩)⟩)
  rintro raw hraw
  obtain rfl : execute trace = raw := by injection hraw
  rw [hexecute, wp_bind, wp_perform, helapsed, wp_bind, ReplayCache.recordRun, wp_bind, wp_get]
  refine wp_ite.mpr ⟨fun hclear ↦ (by cases hrecordable.symm.trans hclear), fun _ ↦ ?_⟩
  rw [look_recordable]
  refine ReplayCache.wp_cachePut.mpr ⟨fun _ ↦ ?_, (by rintro ⟨⟩), (by rintro error ⟨⟩)⟩
  dsimp only [Rollout.push]
  rw [← lookRow, hput]
  exact h

theorem wp_lookedUp {key : String} {row : Option String}
    {Q : Option StepResult → Rollout Unit ReplayCache → Prop} (hlive : cache.live = false)
    (hmarker : get trace = none) (hrow : get (trace ++ [.get (blockedKey key) (.ok none)]) = row)
    (hlook : ∀ text, row = some text → deserialize text = some (.ofRun {}))
    (h : Q (row.map fun _ ↦ .ofRun {}) ⟨trace ++ lookedUp key row, cache, chain⟩) :
    wp (ReplayCache.serveReplay (lookWorld get execute) key) Q E ⟨trace, cache, chain⟩ := by
  have hget : trace ++ [.get (blockedKey key) (.ok none)] ++ [.get key (.ok row)] =
      trace ++ lookedUp key row := List.append_assoc _ _ _
  rw [ReplayCache.serveReplay, wp_bind, wp_get]
  refine wp_ite.mpr ⟨fun hhot ↦ (by cases hlive.symm.trans hhot), fun _ ↦ ?_⟩
  refine wp_bind.mpr (ReplayCache.wp_cacheGet.mpr ⟨?_, (by rintro ⟨⟩), (by rintro error ⟨⟩)⟩)
  rintro value hvalue
  obtain rfl : none = value := by
    rw [← hmarker]
    injection hvalue
  refine wp_bind.mpr (ReplayCache.wp_cacheGet.mpr ⟨?_, (by rintro ⟨⟩), (by rintro error ⟨⟩)⟩)
  rintro value hvalue
  obtain rfl : row = value := by
    rw [← hrow]
    injection hvalue
  dsimp only [Rollout.push]
  rw [hget]
  cases row with
  | none => exact h
  | some text =>
    refine wp_bind.mpr (ReplayCache.wp_readRow.mpr ⟨fun result hresult ↦ ?_, fun hnone ↦ ?_⟩)
    · obtain rfl := Option.some.inj ((hlook text rfl).symm.trans hresult)
      exact wp_pure.mpr h
    · cases (hlook text rfl).symm.trans hnone

/-! The four kinds of steps. -/

theorem wp_live {scope : ReplayScope} (key : String)
    (hkey : key = keyOf (advanceDigest hexdigest cache.digest (.run look)))
    (hlive : cache.live = true) (hrecordable : cache.recordableChain = true)
    (hexecute : execute trace = {})
    (h : Q (.ofRun {}) ⟨trace ++ executed key,
      { cache with digest := advanceDigest hexdigest cache.digest (.run look) }, chain⟩) :
    wp (ReplayCache.stepRun .ascii hexdigest scope (lookWorld get execute) look) Q E
      ⟨trace, cache, chain⟩ := by
  rw [ReplayCache.stepRun, wp_bind, ReplayCache.wp_advance, wp_bind, ← hkey]
  refine (ReplayCache.wp_serveReplay_live hlive).mpr (wp_bind.mpr
    ((ReplayCache.goLive_live hlive).mpr ?_))
  exact wp_executed _ hrecordable hexecute h

theorem wp_miss {scope : ReplayScope} (key : String)
    (hkey : key = keyOf (advanceDigest hexdigest cache.digest (.run look)))
    (hlive : cache.live = false) (hreplayed : cache.replayed = [])
    (hrecordable : cache.recordableChain = true) (hmarker : get trace = none)
    (hrow : get (trace ++ [.get (blockedKey key) (.ok none)]) = none)
    (hexecute : execute (trace ++ lookedUp key none) = {})
    (h : Q (.ofRun {}) ⟨trace ++ lookedUp key none ++ executed key,
      { cache with
        digest := advanceDigest hexdigest cache.digest (.run look)
        live := true }, chain⟩) :
    wp (ReplayCache.stepRun .ascii hexdigest scope (lookWorld get execute) look) Q E
      ⟨trace, cache, chain⟩ := by
  rw [ReplayCache.stepRun, wp_bind, ReplayCache.wp_advance, wp_bind, ← hkey]
  refine wp_lookedUp hlive hmarker hrow (by rintro text ⟨⟩) ?_
  rw [Option.map_none, wp_bind, ReplayCache.goLive, wp_bind, wp_get]
  refine wp_ite.mpr ⟨fun hhot ↦ (by cases hlive.symm.trans hhot), fun _ ↦ ?_⟩
  rw [wp_bind, ReplayCache.wp_update, ReplayCache.materialize, wp_bind, wp_get, wp_bind]
  dsimp only
  rw [hreplayed, ReplayCache.materializeFrom, wp_pure, ReplayCache.wp_update]
  dsimp only
  rw [← hreplayed]
  exact wp_executed _ hrecordable hexecute h

/-- What the cache keeps of a served step. -/
def kept (hexdigest : Hexdigest) (key : String) : ReplayedStep :=
  ⟨look, key, Unicode.ascii.scrubbedHash hexdigest.digest (some look.command) (.ofRun {})⟩

theorem deserialize_lookRow : deserialize lookRow = some (.ofRun {}) := deserialize_serialize _

theorem wp_served {scope : ReplayScope} (key : String)
    (hkey : key = keyOf (advanceDigest hexdigest cache.digest (.run look)))
    (hlive : cache.live = false) (hmarker : get trace = none)
    (hrow : get (trace ++ [.get (blockedKey key) (.ok none)]) = some lookRow)
    (h : Q (.ofRun {}) ⟨trace ++ lookedUp key (some lookRow),
      { cache with
        digest := advanceDigest hexdigest cache.digest (.run look)
        replayed := cache.replayed ++ [kept hexdigest key] }, chain⟩) :
    wp (ReplayCache.stepRun .ascii hexdigest scope (lookWorld get execute) look) Q E
      ⟨trace, cache, chain⟩ := by
  rw [ReplayCache.stepRun, wp_bind, ReplayCache.wp_advance, wp_bind, ← hkey]
  refine wp_lookedUp hlive hmarker hrow (fun text htext ↦ ?_) ?_
  · rw [← Option.some.inj htext, deserialize_lookRow]
  · rw [Option.map_some, wp_bind, ReplayCache.wp_update]
    exact wp_pure.mpr h

/-- The events of the drift of the second served step. -/
def drifted (key : String) : List (Event Unit) :=
  [.execute look (.ok {}), .execute look (.ok { stdout := "x" }),
    .put (blockedKey key) blockedValue (.ok ())]

theorem wp_drift {scope : ReplayScope} {key₁ key₂ : String} (key : String)
    (hkey : key = keyOf (advanceDigest hexdigest cache.digest (.run look)))
    (hlive : cache.live = false)
    (hreplayed : cache.replayed = [kept hexdigest key₁, kept hexdigest key₂])
    (hmarker : get trace = none)
    (hrow : get (trace ++ [.get (blockedKey key) (.ok none)]) = none)
    (hexecute : execute (trace ++ lookedUp key none) = {})
    (hdrift : execute (trace ++ lookedUp key none ++ [.execute look (.ok {})]) = { stdout := "x" }) :
    wp (ReplayCache.stepRun .ascii hexdigest scope (lookWorld get execute) look)
      (fun _ _ ↦ False)
      (fun error s' ↦ trace ++ lookedUp key none ++ drifted key₂ <+: s'.trace ∧ error ≠ .cancelled)
      ⟨trace, cache, chain⟩ := by
  rw [ReplayCache.stepRun, wp_bind, ReplayCache.wp_advance, wp_bind, ← hkey]
  refine wp_lookedUp hlive hmarker hrow (by rintro text ⟨⟩) ?_
  rw [Option.map_none, wp_bind, ReplayCache.goLive, wp_bind, wp_get]
  refine wp_ite.mpr ⟨fun hhot ↦ (by cases hlive.symm.trans hhot), fun _ ↦ ?_⟩
  rw [wp_bind, ReplayCache.wp_update, ReplayCache.materialize, wp_bind, wp_get, wp_bind]
  dsimp only
  rw [hreplayed, ReplayCache.materializeFrom]
  -- the first step reproduces
  refine wp_bind.mpr (ReplayCache.wp_executeRun.mpr ⟨?_, (by rintro ⟨⟩), (by rintro error ⟨⟩)⟩)
  rintro raw hraw
  obtain rfl : {} = raw := by
    rw [← hexecute]
    injection hraw
  refine wp_ite.mpr ⟨fun hbroken ↦ absurd ?_ hbroken, fun _ ↦ ?_⟩
  · exact congrArg _ look_reproduces
  -- the second does not
  rw [ReplayCache.materializeFrom]
  refine wp_bind.mpr (ReplayCache.wp_executeRun.mpr ⟨?_, (by rintro ⟨⟩), (by rintro error ⟨⟩)⟩)
  rintro raw hraw
  obtain rfl : { stdout := "x" } = raw := by
    rw [← hdrift]
    injection hraw
  refine wp_ite.mpr ⟨fun _ ↦ ?_, fun hsame ↦ absurd (fun h ↦ ?_) hsame⟩
  · refine wp_bind.mpr (ReplayCache.wp_cachePut.mpr ⟨fun _ ↦ ?_, (by rintro ⟨⟩),
      (by rintro error ⟨⟩)⟩)
    have hgrown : ∀ {s' : Rollout Unit ReplayCache},
        (∃ events, s'.trace = trace ++ lookedUp key none ++ [.execute look (.ok {})] ++
          [.execute look (.ok { stdout := "x" })] ++ [.put (blockedKey key₂) blockedValue (.ok ())] ++
          events) → trace ++ lookedUp key none ++ drifted key₂ <+: s'.trace := by
      rintro s' ⟨events, htrace⟩
      refine ⟨events, ?_⟩
      rw [htrace, drifted]
      simp only [List.append_assoc, List.cons_append, List.nil_append]
    rw [wp_bind, ReplayCache.recordedResultForError]
    refine wp_bind.mpr (ReplayCache.wp_cacheGet.mpr ⟨?_, (by rintro ⟨⟩), (by rintro error ⟨⟩)⟩)
    rintro (_ | text) _
    · exact ⟨hgrown ⟨_, rfl⟩, by simp⟩
    · refine wp_bind.mpr (ReplayCache.wp_readRow.mpr ⟨fun _ _ ↦ ?_, fun _ ↦ ?_⟩)
      · exact ⟨hgrown ⟨_, rfl⟩, by simp⟩
      · exact ⟨hgrown ⟨_, rfl⟩, by simp⟩
  · exact look_drifts ((scrubbedHash_inj hexdigest.injective).mp h)

/-! ### Traces -/

/-- The digest of a number of looks. -/
def lookDigest (hexdigest : Hexdigest) : ℕ → String
  | 0 => scopeDigest hexdigest ⟨"task", 0⟩
  | n + 1 => advanceDigest hexdigest (lookDigest hexdigest n) (.run look)

def lookKey (hexdigest : Hexdigest) (n : ℕ) : String := keyOf (lookDigest hexdigest n)

theorem trace_of_recorder (hget : ∀ trace, get trace = none) (hexecute : ∀ trace, execute trace = {}) :
    requested (requested (requested opening ++ lookedUp (lookKey hexdigest 1) none ++
      executed (lookKey hexdigest 1)) ++ executed (lookKey hexdigest 2)) ++
      executed (lookKey hexdigest 3) <+: (looking get execute).trace .ascii hexdigest := by
  refine trace_of_batch (wp_batch 2 [(), ()] ?_)
  refine wp_miss (lookKey hexdigest 1) rfl rfl rfl rfl (hget _) (hget _) (hexecute _) ⟨rfl, fun _ ↦ ?_⟩
  refine wp_batch 1 [()] ?_
  refine wp_live (lookKey hexdigest 2) rfl rfl rfl (hexecute _) ⟨rfl, fun _ ↦ ?_⟩
  refine wp_batch 0 [] ?_
  exact wp_live (lookKey hexdigest 3) rfl rfl rfl (hexecute _) ⟨rfl, fun _ ↦ List.prefix_rfl⟩

theorem trace_of_drifter
    (hget : ∀ trace, get trace =
      if (trace.filter Event.isGet).length ∈ [1, 3] then some lookRow else none)
    (hexecute : ∀ trace, execute trace = if (calls trace).isEmpty then {} else { stdout := "x" }) :
    requested (requested (requested opening ++ lookedUp (lookKey hexdigest 1) (some lookRow)) ++
      lookedUp (lookKey hexdigest 2) (some lookRow)) ++ lookedUp (lookKey hexdigest 3) none ++
      drifted (lookKey hexdigest 2) <+: (looking get execute).trace .ascii hexdigest := by
  refine trace_of_batch (wp_batch 2 [(), ()] ?_)
  refine wp_served (lookKey hexdigest 1) rfl rfl ((hget _).trans rfl) ((hget _).trans rfl)
    ⟨rfl, fun _ ↦ ?_⟩
  refine wp_batch 1 [()] ?_
  refine wp_served (lookKey hexdigest 2) rfl rfl ((hget _).trans rfl) ((hget _).trans rfl)
    ⟨rfl, fun _ ↦ ?_⟩
  refine wp_batch 0 [] ?_
  exact wp_mono (wp_drift (lookKey hexdigest 3) rfl rfl rfl ((hget _).trans rfl)
    ((hget _).trans rfl) ((hexecute _).trans rfl) ((hexecute _).trans rfl))
    (fun _ _ h ↦ h.elim) fun _ _ h ↦ h

end Look

/-! ### A history -/

section Order

variable (hexdigest : Hexdigest)

/-- Two rollouts that record, and one that drifts. -/
def racers (party : Fin 3) : ReplayedRollout Unit := if party = 2 then drifter else recorder

/-- The second recorder finds no row and is delayed; the first one records two steps. -/
def race₁ : List (Occurrence (Fin 3) (Event Unit)) :=
  speech 1 (requested opening) ++ speech 1 (lookedUp (lookKey hexdigest 1) none) ++
    speech 0 (requested opening) ++ speech 0 (lookedUp (lookKey hexdigest 1) none) ++
    speech 0 (requested (executed (lookKey hexdigest 1)) ++ executed (lookKey hexdigest 2))

/-- The two steps are served, and the second one drifts. -/
def race₂ : List (Occurrence (Fin 3) (Event Unit)) :=
  speech 2 (requested opening) ++ speech 2 (lookedUp (lookKey hexdigest 1) (some lookRow)) ++
    speech 2 (requested []) ++ speech 2 (lookedUp (lookKey hexdigest 2) (some lookRow)) ++
    speech 2 (requested []) ++ speech 2 (lookedUp (lookKey hexdigest 3) none) ++
    speech 2 (drifted (lookKey hexdigest 2))

/-- The second recorder goes on. -/
def race₃ : List (Occurrence (Fin 3) (Event Unit)) :=
  speech 1 (requested (requested (executed (lookKey hexdigest 1)) ++
    executed (lookKey hexdigest 2)) ++ executed (lookKey hexdigest 3))

variable {hexdigest}

theorem lookKey_eq (n : ℕ) :
    lookKey hexdigest n = stepKey hexdigest ⟨"task", 0⟩ (List.replicate n (.run look)) := by
  rw [lookKey, stepKey]
  congr 1
  induction n with
  | zero => rfl
  | succ n ih => rw [List.replicate_succ', chainDigest_snoc, lookDigest, ih]

@[simp]
theorem lookKey_inj {m n : ℕ} : lookKey hexdigest m = lookKey hexdigest n ↔ m = n := by
  rw [lookKey_eq, lookKey_eq, stepKey_inj]
  constructor
  · rintro ⟨-, h⟩
    simpa using congrArg List.length h
  · rintro rfl
    exact ⟨rfl, rfl⟩

@[simp]
theorem blockedKey_ne_lookKey (key : String) (n : ℕ) : blockedKey key ≠ lookKey hexdigest n := by
  rw [lookKey_eq]
  exact blockedKey_ne_stepKey key

@[simp]
theorem stored_requested (party : Fin 3) (trace : List (Event Unit)) (key : String) :
    stored storeAccess (speech party (requested trace)) key =
      stored storeAccess (speech party trace) key := by
  rw [requested, speech, List.map_append, stored_append_eq]
  exact Option.or_none

@[simp]
theorem stored_executed (party : Fin 3) (key key' : String) :
    stored storeAccess (speech party (executed key)) key' =
      if key' = key then some lookRow else none := by
  have hlookup : stored storeAccess (speech party (executed key)) key' =
      match key' == key with
      | true => some lookRow
      | false => none := rfl
  rw [hlookup]
  split <;> simp_all

@[simp]
theorem stored_lookedUp (party : Fin 3) (key key' : String) (row : Option String) :
    stored storeAccess (speech party (lookedUp key row)) key' = none := rfl

@[simp]
theorem stored_nothing (party : Fin 3) (key : String) :
    stored storeAccess (speech party ([] : List (Event Unit))) key = none := rfl

@[simp]
theorem stored_opening (party : Fin 3) (key : String) :
    stored storeAccess (speech party opening) key = none := rfl

theorem consistent_lookedUp {history : List (Occurrence (Fin 3) (Event Unit))} {party : Fin 3}
    {key : String} {row : Option String} (h : Consistent storeAccess history)
    (hmarker : stored storeAccess history (blockedKey key) = none)
    (hrow : stored storeAccess history key = row) :
    Consistent storeAccess (history ++ speech party (lookedUp key row)) := by
  rw [lookedUp, speech, List.map_cons, ← List.singleton_append, ← List.append_assoc]
  refine (h.snoc ?_).snoc ?_
  · rintro _ _ ⟨⟩
    exact hmarker.symm
  · rintro _ _ ⟨⟩
    rw [stored_append_eq, hrow]
    exact Option.or_none.symm

@[simp]
theorem stored_drifted (party : Fin 3) (key key' : String) :
    stored storeAccess (speech party (drifted key)) key' =
      if key' = blockedKey key then some blockedValue else none := by
  have hlookup : stored storeAccess (speech party (drifted key)) key' =
      match key' == blockedKey key with
      | true => some blockedValue
      | false => none := rfl
  rw [hlookup]
  split <;> simp_all

@[simp]
theorem stored_race₁_blocked (key : String) :
    stored storeAccess (race₁ hexdigest) (blockedKey key) = none := by
  simp [race₁, stored_append_eq, speech_append]

@[simp]
theorem stored_race₁ (n : ℕ) : stored storeAccess (race₁ hexdigest) (lookKey hexdigest n) =
    if n = 1 ∨ n = 2 then some lookRow else none := by
  simp only [race₁, stored_append_eq, speech_append, stored_requested, stored_opening,
    stored_lookedUp, stored_executed, lookKey_inj, Option.none_or]
  split <;> split <;> simp_all

/-- Events that read nothing from the store. -/
def ReadFree (events : List (Event Unit)) : Prop :=
  ∀ event ∈ events, storeAccess.get? event = none

theorem readFree_executed (key : String) : ReadFree (executed key) := by
  simp [ReadFree, executed, storeAccess]

theorem ReadFree.requested {events : List (Event Unit)} (h : ReadFree events) :
    ReadFree (requested events) := by
  intro event hevent
  rcases List.mem_append.mp hevent with hevent | hevent
  · exact h event hevent
  · revert hevent
    simp only [List.mem_cons, List.not_mem_nil, or_false]
    rintro (rfl | rfl) <;> rfl

theorem ReadFree.append {events events' : List (Event Unit)} (h : ReadFree events)
    (h' : ReadFree events') : ReadFree (events ++ events') :=
  fun event hevent ↦ (List.mem_append.mp hevent).elim (h event) (h' event)

/-- Every read is answered from the store. -/
theorem consistent_race :
    Consistent storeAccess (race₁ hexdigest ++ race₂ hexdigest ++ race₃ hexdigest) := by
  have hnil : ReadFree [] := by simp [ReadFree]
  have hopening : ReadFree opening := by simp [ReadFree, opening, storeAccess]
  have hdrifted : ReadFree (drifted (lookKey hexdigest 2)) := by
    simp [ReadFree, drifted, storeAccess]
  have h₁ : Consistent storeAccess (race₁ hexdigest) := by
    refine .speech (consistent_lookedUp (.speech (consistent_lookedUp
      (.speech .nil hopening.requested) ?_ ?_) hopening.requested) ?_ ?_)
      ((readFree_executed _).requested.append (readFree_executed _))
    all_goals simp [stored_append_eq]
  refine .speech ?_ (((readFree_executed _).requested.append (readFree_executed _)).requested.append
    (readFree_executed _))
  simp only [race₂, ← List.append_assoc]
  refine .speech (consistent_lookedUp (.speech (consistent_lookedUp (.speech (consistent_lookedUp
    (.speech h₁ hopening.requested) ?_ ?_) hnil.requested) ?_ ?_) hnil.requested) ?_ ?_) hdrifted
  all_goals simp [stored_append_eq]

theorem shared_race :
    Shared .ascii hexdigest racers (race₁ hexdigest ++ race₂ hexdigest ++ race₃ hexdigest) := by
  refine ⟨fun party ↦ ?_, consistent_race⟩
  have hrecorder : _ <+: recorder.trace .ascii hexdigest :=
    trace_of_recorder (fun _ ↦ rfl) fun _ ↦ rfl
  have hdrifter : _ <+: drifter.trace .ascii hexdigest :=
    trace_of_drifter (fun _ ↦ rfl) fun _ ↦ rfl
  simp only [requested, List.append_assoc] at hrecorder hdrifter
  match party with
  | 0 =>
    refine List.IsPrefix.trans ⟨requested [] ++ executed (lookKey hexdigest 3), ?_⟩ hrecorder
    simp +decide only [race₁, race₂, race₃, projection_append, projection_speech, requested,
      if_true, if_false, List.append_nil, List.nil_append, List.append_assoc]
  | 1 =>
    refine List.IsPrefix.trans ?_ hrecorder
    simp +decide only [race₁, race₂, race₃, projection_append, projection_speech, requested,
      if_true, if_false, List.nil_append, List.append_assoc, List.prefix_rfl]
  | 2 =>
    refine List.IsPrefix.trans ?_ hdrifter
    simp +decide only [race₁, race₂, race₃, projection_append, projection_speech, requested,
      if_true, if_false, List.append_nil, List.nil_append, List.append_assoc, List.prefix_rfl]

theorem reliable_race : Reliable (race₁ hexdigest ++ race₂ hexdigest ++ race₃ hexdigest) := by
  intro party key error hmem
  simp [race₁, race₂, race₃, speech, requested, opening, lookedUp, executed, drifted] at hmem

theorem marked_race : Marked hexdigest ⟨"task", 0⟩ (race₁ hexdigest ++ race₂ hexdigest)
    [.run look, .run look] := by
  have hkey : stepKey hexdigest ⟨"task", 0⟩ [.run look, .run look] = lookKey hexdigest 2 :=
    (lookKey_eq 2).symm
  refine ⟨blockedValue, ?_⟩
  rw [hkey]
  simp [race₂, stored_append_eq]

theorem requests_race : requests (projection 1 (race₁ hexdigest ++ race₂ hexdigest)) =
    [.run look] := by
  simp +decide only [race₁, race₂, projection_append, projection_speech, if_true, if_false,
    List.append_nil]
  rfl

end Order

/-- A result that was recorded is served. -/
theorem served_provenance : ∃ first action, [.run look, .run look] = first ++ [action] ∧
    Provenance .ascii .spelled racers (race₁ .spelled ++ race₂ .spelled ++ race₃ .spelled)
      ⟨"task", 0⟩ first action (.ofRun {}) := by
  have hkey : stepKey .spelled (racers 2).scope [.run look, .run look] = lookKey .spelled 2 :=
    (lookKey_eq 2).symm
  have hserves : Serves .spelled racers (race₁ .spelled ++ race₂ .spelled ++ race₃ .spelled) 2
      (race₁ .spelled ++ (speech 2 (requested opening) ++
        speech 2 (lookedUp (lookKey .spelled 1) (some lookRow)) ++ speech 2 (requested []) ++
        speech 2 [.get (blockedKey (lookKey .spelled 2)) (.ok none)]))
      [.run look, .run look] (.ofRun {}) := by
    refine ⟨lookRow, speech 2 (requested []) ++ speech 2 (lookedUp (lookKey .spelled 3) none) ++
      speech 2 (drifted (lookKey .spelled 2)) ++ race₃ .spelled, ?_, deserialize_lookRow⟩
    rw [hkey, race₂]
    simp [speech, lookedUp]
  exact Shared.provenance shared_race hserves

/-- **A rollout that was live before the mark records an extension.** -/
theorem records_after_mark :
    ∃ (before after : List (Occurrence (Fin 3) (Event Unit))) (actions extension : List EnvAction),
      Shared .ascii .spelled racers (before ++ after) ∧ Reliable (before ++ after) ∧
      Marked .spelled (racers 1).scope before actions ∧
      (requests (projection 1 before)).length < actions.length ∧ extension ≠ [] ∧
      ∃ value, .exchange 1 (.put (stepKey .spelled (racers 1).scope (actions ++ extension)) value
        (.ok ())) ∈ after := by
  refine ⟨race₁ .spelled ++ race₂ .spelled, race₃ .spelled, [.run look, .run look], [.run look],
    shared_race, reliable_race, marked_race, ?_, by simp, lookRow, ?_⟩
  · rw [requests_race]
    decide
  · have hkey : stepKey .spelled (racers 1).scope ([.run look, .run look] ++ [.run look]) =
        lookKey .spelled 3 := (lookKey_eq 3).symm
    rw [hkey]
    simp [race₃, speech, executed]

/-- It never reads a row of the marked chain. -/
theorem marked_live_only :
    (∀ answer, .exchange 1 (.get (stepKey .spelled ⟨"task", 0⟩ [.run look, .run look, .run look])
      answer) ∉ race₁ .spelled ++ race₂ .spelled ++ race₃ .spelled) ∧
    (¬LiveBefore (projection 1 (race₁ .spelled ++ race₂ .spelled ++ race₃ .spelled)) 2 →
      ∀ value answer, .exchange 1 (.put (stepKey .spelled ⟨"task", 0⟩
        [.run look, .run look, .run look]) value answer) ∉
          race₁ .spelled ++ race₂ .spelled ++ race₃ .spelled) := by
  have hreaches : (requests (projection 1 (race₁ .spelled ++ race₂ .spelled))).length < 2 := by
    rw [requests_race]
    decide
  exact Shared.live_only (i := 1) shared_race marked_race hreaches reliable_race [.run look]

end Race

end HarnessTraining
