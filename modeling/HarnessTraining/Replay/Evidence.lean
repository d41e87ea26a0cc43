import HarnessTraining.Library.Transitions
import HarnessTraining.Replay.Steps

/-!
# What a trace shows

The readings of the trace of a replayed episode: what has been requested, what the environment has
executed, which steps were served, which were executed live and found recordable.

* `Lawful` — every access to the store is one the step cache makes for a reason that the trace shows:
  a marker is read before its row, a served step is known to be unmarked, and a row is recorded only
  after a live execution on the whole chain.
-/

set_option autoImplicit false

namespace HarnessTraining

variable {A : Type}

/-! ## Readings -/

namespace Event

/-- A call of the environment, with its transition if it returned. -/
def reply? : Event A → Option (EnvAction × Option StepResult)
  | .execute action (.ok raw) => some (.run action, some (.ofRun raw))
  | .execute action (.error _) => some (.run action, none)
  | .verify (.ok outcome) => some (.verify, some (.ofVerify outcome))
  | .verify (.error _) => some (.verify, none)
  | _ => none

theorem environmentCall?_eq (event : Event A) : event.environmentCall? = event.reply?.map Prod.fst := by
  cases event with
  | execute action answer => cases answer <;> rfl
  | verify answer => cases answer <;> rfl
  | _ => rfl

/-- An access to the shared store. -/
def isStore : Event A → Bool
  | .get _ _ | .put _ _ _ => true
  | _ => false

def isGet : Event A → Bool
  | .get _ _ => true
  | _ => false

/-- A row that was found, with its key. -/
def row? : Event A → Option (String × String)
  | .get key (.ok (some text)) => some (key, text)
  | _ => none

theorem isStore_of_loop {event : Event A} (h : event.ofExecutor = false) : event.isStore = false := by
  cases event <;> first | rfl | cases h

theorem reply?_of_loop {event : Event A} (h : event.ofExecutor = false) : event.reply? = none := by
  cases event <;> first | rfl | cases h

end Event

/-- The actions requested so far. -/
def requests (trace : List (Event A)) : List EnvAction := trace.filterMap Event.requested?

/-- What the environment has executed so far, with the transitions. -/
def replies (trace : List (Event A)) : List (EnvAction × Option StepResult) :=
  trace.filterMap Event.reply?

/-- What the environment has executed so far. -/
def calls (trace : List (Event A)) : List EnvAction := trace.filterMap Event.environmentCall?

theorem calls_eq (trace : List (Event A)) : calls trace = (replies trace).map Prod.fst := by
  rw [calls, replies, List.map_filterMap]
  exact List.filterMap_congr fun event _ ↦ event.environmentCall?_eq

theorem requests_append (trace events : List (Event A)) :
    requests (trace ++ events) = requests trace ++ requests events := List.filterMap_append

theorem replies_append (trace events : List (Event A)) :
    replies (trace ++ events) = replies trace ++ replies events := List.filterMap_append

theorem calls_append (trace events : List (Event A)) :
    calls (trace ++ events) = calls trace ++ calls events := List.filterMap_append

/-! ## Evidence -/

section Evidence

variable (u : Unicode) (hexdigest : Hexdigest) (scope : ReplayScope) (trace : List (Event A))

/-- A read that found nothing, or failed open. -/
def Missed (answer : Answer (Option String)) : Prop :=
  answer = .ok none ∨ ∃ error, answer = .error (.raised error)

/-- The marker of a chain has been looked for and not been found. -/
def Unmarked (actions : List EnvAction) : Prop :=
  ∃ answer, Missed answer ∧ .get (blockedKey (stepKey hexdigest scope actions)) answer ∈ trace

/-- The last step of a chain was served, from a row that reads as `result`. -/
structure ServedAt (actions : List EnvAction) (result : StepResult) : Prop where
  unmarked : Unmarked hexdigest scope trace actions
  row : ∃ text, .get (stepKey hexdigest scope actions) (.ok (some text)) ∈ trace ∧
    deserialize text = some result

/-- `action` was executed in an environment that had executed exactly `actions`, and its step is one
to record. -/
inductive LivedAt (actions : List EnvAction) : EnvAction → StepResult → Prop
  | run (before after : List (Event A)) (action : RunAction) (raw : RawEnvOutput) (elapsedSec : ℚ)
      (htrace : trace = before ++ .execute action (.ok raw) :: .elapsed elapsedSec :: after)
      (hcalls : calls before = actions)
      (hrecordable : skipRecordingReason u action (.ofRun raw) elapsedSec = none) :
      LivedAt actions (.run action) (.ofRun raw)
  | verify (before after : List (Event A)) (outcome : VerifyOutcome)
      (htrace : trace = before ++ .verify (.ok outcome) :: after)
      (hcalls : calls before = actions) : LivedAt actions .verify (.ofVerify outcome)

/-- The environment was called before step `n` was requested. -/
def LiveBefore (n : ℕ) : Prop :=
  ∃ before event after, trace = before ++ event :: after ∧ event.environmentCall?.isSome = true ∧
    (requests before).length < n

/-- The step cache is not kept from recording by the last step of a chain: it was served, or it was
executed live and is one to record.  A marker is looked for as long as nothing was executed. -/
def Passed (actions : List EnvAction) (action : EnvAction) : Prop :=
  (∃ result, ServedAt hexdigest scope trace (actions ++ [action]) result) ∨
    (∃ result, LivedAt u trace actions action result) ∧
      (Unmarked hexdigest scope trace (actions ++ [action]) ∨ LiveBefore trace (actions.length + 1))

/-- So for every step of a chain. -/
def PassedAll (actions : List EnvAction) : Prop :=
  ∀ before action, before ++ [action] <+: actions → Passed u hexdigest scope trace before action

/-- Every step of a chain was served. -/
def ServedAll (actions : List EnvAction) : Prop :=
  ∀ before action, before ++ [action] <+: actions →
    ∃ result, ServedAt hexdigest scope trace (before ++ [action]) result

/-- A result that the step cache may record. -/
structure Recorded (actions : List EnvAction) (action : EnvAction) (result : StepResult) : Prop where
  requested : requests trace = actions ++ [action]
  passed : PassedAll u hexdigest scope trace actions
  lived : LivedAt u trace actions action result
  unmarked : Unmarked hexdigest scope trace (actions ++ [action]) ∨
    LiveBefore trace (actions.length + 1)

end Evidence

section Monotone

variable {u : Unicode} {hexdigest : Hexdigest} {scope : ReplayScope} {trace trace' : List (Event A)}
  {actions : List EnvAction} {action : EnvAction} {result : StepResult}

theorem Unmarked.mono (h : Unmarked hexdigest scope trace actions) (hgrown : trace <+: trace') :
    Unmarked hexdigest scope trace' actions := by
  obtain ⟨answer, hmissed, hmem⟩ := h
  exact ⟨answer, hmissed, hgrown.subset hmem⟩

theorem ServedAt.mono (h : ServedAt hexdigest scope trace actions result)
    (hgrown : trace <+: trace') : ServedAt hexdigest scope trace' actions result := by
  obtain ⟨text, hmem, hresult⟩ := h.row
  exact ⟨h.unmarked.mono hgrown, text, hgrown.subset hmem, hresult⟩

theorem LivedAt.mono (h : LivedAt u trace actions action result) (hgrown : trace <+: trace') :
    LivedAt u trace' actions action result := by
  obtain ⟨rest, rfl⟩ := hgrown
  cases h with
  | run before after action raw elapsedSec htrace hcalls hrecordable =>
    exact .run before (after ++ rest) action raw elapsedSec (by simp [htrace]) hcalls hrecordable
  | verify before after outcome htrace hcalls =>
    exact .verify before (after ++ rest) outcome (by simp [htrace]) hcalls

theorem LiveBefore.mono {n : ℕ} (h : LiveBefore trace n) (hgrown : trace <+: trace') :
    LiveBefore trace' n := by
  obtain ⟨rest, rfl⟩ := hgrown
  obtain ⟨before, event, after, rfl, hcall, hlength⟩ := h
  exact ⟨before, event, after ++ rest, by simp, hcall, hlength⟩

theorem Passed.mono (h : Passed u hexdigest scope trace actions action)
    (hgrown : trace <+: trace') : Passed u hexdigest scope trace' actions action := by
  rcases h with ⟨result, h⟩ | ⟨⟨result, hlived⟩, hunmarked⟩
  · exact Or.inl ⟨result, h.mono hgrown⟩
  · exact Or.inr ⟨⟨result, hlived.mono hgrown⟩,
      hunmarked.imp (fun h ↦ h.mono hgrown) fun h ↦ h.mono hgrown⟩

theorem PassedAll.mono (h : PassedAll u hexdigest scope trace actions)
    (hgrown : trace <+: trace') : PassedAll u hexdigest scope trace' actions :=
  fun before action hbefore ↦ (h before action hbefore).mono hgrown

theorem ServedAll.mono (h : ServedAll hexdigest scope trace actions)
    (hgrown : trace <+: trace') : ServedAll hexdigest scope trace' actions := by
  intro before action hbefore
  obtain ⟨result, h⟩ := h before action hbefore
  exact ⟨result, h.mono hgrown⟩

theorem ServedAll.passedAll (h : ServedAll hexdigest scope trace actions) :
    PassedAll u hexdigest scope trace actions :=
  fun before action hbefore ↦ Or.inl (h before action hbefore)

/-- A chain and a first part of it with a last step. -/
theorem prefix_snoc_cases {α : Type} {before actions : List α} {action action' : α}
    (h : before ++ [action] <+: actions ++ [action']) :
    before ++ [action] <+: actions ∨ before = actions ∧ action = action' := by
  rcases List.prefix_concat_iff.mp h with h | h
  · obtain ⟨rfl, hlast⟩ := List.append_inj' h rfl
    exact Or.inr ⟨rfl, by simpa using hlast⟩
  · exact Or.inl h

theorem PassedAll.snoc (h : PassedAll u hexdigest scope trace actions)
    (hlast : Passed u hexdigest scope trace actions action) :
    PassedAll u hexdigest scope trace (actions ++ [action]) := by
  intro before action' hbefore
  rcases prefix_snoc_cases hbefore with hbefore | ⟨rfl, rfl⟩
  · exact h before action' hbefore
  · exact hlast

theorem ServedAll.snoc (h : ServedAll hexdigest scope trace actions)
    (hlast : ServedAt hexdigest scope trace (actions ++ [action]) result) :
    ServedAll hexdigest scope trace (actions ++ [action]) := by
  intro before action' hbefore
  rcases prefix_snoc_cases hbefore with hbefore | ⟨rfl, rfl⟩
  · exact h before action' hbefore
  · exact ⟨result, hlast⟩

end Monotone

/-! ## Lawful accesses -/

section Lawful

variable (u : Unicode) (hexdigest : Hexdigest) (scope : ReplayScope)

/-- What the step cache may ask of the store after `trace`. -/
inductive EventOk (trace : List (Event A)) : Event A → Prop
  | other (event : Event A) (h : event.isStore = false) : EventOk trace event
  | readMarker (actions : List EnvAction) (action : EnvAction) (answer : Answer (Option String))
      (hrequested : requests trace = actions ++ [action])
      (hserved : ServedAll hexdigest scope trace actions) :
      EventOk trace (.get (blockedKey (stepKey hexdigest scope (actions ++ [action]))) answer)
  | readRow (actions : List EnvAction) (action : EnvAction) (answer : Answer (Option String))
      (hrequested : requests trace = actions ++ [action])
      (hserved : ServedAll hexdigest scope trace actions)
      (hunmarked : Unmarked hexdigest scope trace (actions ++ [action])) :
      EventOk trace (.get (stepKey hexdigest scope (actions ++ [action])) answer)
  /-- The row of a served step that did not reproduce is read for the error. -/
  | reread (actions : List EnvAction) (result : StepResult) (answer : Answer (Option String))
      (hshorter : actions.length < (requests trace).length)
      (hserved : ServedAt hexdigest scope trace actions result) :
      EventOk trace (.get (stepKey hexdigest scope actions) answer)
  | mark (actions : List EnvAction) (result : StepResult) (answer : Answer Unit)
      (hserved : ServedAt hexdigest scope trace actions result) :
      EventOk trace (.put (blockedKey (stepKey hexdigest scope actions)) blockedValue answer)
  | record (actions : List EnvAction) (action : EnvAction) (result : StepResult)
      (answer : Answer Unit) (hrecorded : Recorded u hexdigest scope trace actions action result) :
      EventOk trace (.put (stepKey hexdigest scope (actions ++ [action]))
        (serializeStepResult result) answer)

/-- Every access to the store is lawful. -/
def Lawful (trace : List (Event A)) : Prop :=
  ∀ before event after, trace = before ++ event :: after → EventOk u hexdigest scope before event

variable {u hexdigest scope} {trace : List (Event A)}

theorem Lawful.push {event : Event A} (h : Lawful u hexdigest scope trace)
    (hevent : EventOk u hexdigest scope trace event) : Lawful u hexdigest scope (trace ++ [event]) := by
  intro before event' after htrace
  rcases Transitions.split_snoc htrace with ⟨rfl, rfl⟩ | ⟨rest, hbefore⟩
  · exact hevent
  · exact h before event' rest hbefore

theorem Lawful.append {events : List (Event A)} (h : Lawful u hexdigest scope trace)
    (hevents : ∀ event ∈ events, event.isStore = false) :
    Lawful u hexdigest scope (trace ++ events) := by
  induction events using List.reverseRecOn with
  | nil => rwa [List.append_nil]
  | append_singleton events event ih =>
    rw [← List.append_assoc]
    refine (ih fun event' h' ↦ hevents event' (List.mem_append_left _ h')).push ?_
    exact .other event (hevents event (by simp))

/-- The rows that were read under the keys of submits are verdicts. -/
def VerdictsRead (hexdigest : Hexdigest) (scope : ReplayScope) (trace : List (Event A)) : Prop :=
  ∀ actions text result,
    .get (stepKey hexdigest scope (actions ++ [.verify])) (.ok (some text)) ∈ trace →
    deserialize text = some result → result.terminal = true

theorem VerdictsRead.mono {trace trace' : List (Event A)}
    (h : VerdictsRead hexdigest scope trace') (hgrown : trace <+: trace') :
    VerdictsRead hexdigest scope trace :=
  fun actions text result hmem ↦ h actions text result (hgrown.subset hmem)

/-- Every access to the store is lawful, as long as the rows read for submits are verdicts. -/
def Honest (u : Unicode) (hexdigest : Hexdigest) (scope : ReplayScope) (trace : List (Event A)) :
    Prop :=
  ∀ before event after, trace = before ++ event :: after →
    VerdictsRead hexdigest scope before → EventOk u hexdigest scope before event

theorem Lawful.honest (h : Lawful u hexdigest scope trace) : Honest u hexdigest scope trace :=
  fun before event after htrace _ ↦ h before event after htrace

/-- What comes after a row that is no verdict need not be lawful. -/
theorem Honest.append {trace' : List (Event A)} (h : Honest u hexdigest scope trace)
    (hbroken : ¬VerdictsRead hexdigest scope trace) (hgrown : trace <+: trace') :
    Honest u hexdigest scope trace' := by
  intro before event after htrace hverdicts
  obtain ⟨rest, rfl⟩ := hgrown
  rcases List.append_eq_append_iff.mp htrace with ⟨more, rfl, -⟩ | ⟨more, rfl, hmore⟩
  · exact absurd (hverdicts.mono ⟨more, rfl⟩) hbroken
  · cases more with
    | nil => exact absurd (hverdicts.mono (by simp)) hbroken
    | cons event' more =>
      obtain ⟨rfl, -⟩ := List.cons.inj hmore
      exact h before event more rfl hverdicts

end Lawful

end HarnessTraining
