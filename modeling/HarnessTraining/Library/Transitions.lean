import Mathlib.Data.List.Induction

/-!
# Runs of a transition function

A system whose step is a partial function `step : σ → ε → Option σ`: an event that cannot happen in a
state is refused.  A run is a list of events, none of which is refused.

* `split_snoc` — the events of a history with one more.
* `run_append`, `run_snoc` — runs are composed of runs.
* `run_invariant` — what every step keeps holds after every run; it may speak of the events so far.
* `run_keeps` — what the events of a kind keep holds after every run of them.
* `Meets`, `run_keeps_of_meets` — the same, of a condition on the state before each event.
* `run_split` — what holds at the end of a run held, for its part, in the middle.
-/

set_option autoImplicit false

namespace Transitions

variable {σ ε : Type} (step : σ → ε → Option σ)

/-- The state after a list of events. -/
def run (s : σ) (events : List ε) : Option σ := events.foldlM step s

variable {step} {s s' : σ} {events before after : List ε} {event : ε}

/-- An event of a history with one more is the last, or one of the history. -/
theorem split_snoc {event' : ε} (h : events ++ [event] = before ++ event' :: after) :
    events = before ∧ event = event' ∨ ∃ rest, events = before ++ event' :: rest := by
  rcases List.eq_nil_or_concat after with rfl | ⟨rest, last, rfl⟩
  · exact Or.inl (List.append_singleton_inj.mp h)
  · rw [List.concat_eq_append, ← List.cons_append, ← List.append_assoc] at h
    exact Or.inr ⟨rest, (List.append_inj' h rfl).1⟩

@[simp]
theorem run_nil : run step s [] = some s := rfl

theorem run_cons : run step s (event :: events) = (step s event).bind (run step · events) := rfl

theorem run_append : run step s (before ++ after) = (run step s before).bind (run step · after) :=
  List.foldlM_append

theorem run_snoc : run step s (events ++ [event]) = some s' ↔
    ∃ middle, run step s events = some middle ∧ step middle event = some s' := by
  rw [run_append, Option.bind_eq_some_iff]
  simp [run]

theorem run_split (h : run step s (before ++ after) = some s') :
    ∃ middle, run step s before = some middle ∧ run step middle after = some s' := by
  rwa [run_append, Option.bind_eq_some_iff] at h

/-- **The rule of invariants.** -/
theorem run_invariant {I : List ε → σ → Prop} (hstart : I [] s)
    (hstep : ∀ events middle event next, I events middle → step middle event = some next →
      I (events ++ [event]) next) (h : run step s events = some s') : I events s' := by
  induction events using List.reverseRecOn generalizing s' with
  | nil =>
    obtain rfl := Option.some.inj h
    exact hstart
  | append_singleton events event ih =>
    obtain ⟨middle, hbefore, hevent⟩ := run_snoc.mp h
    exact hstep events middle event s' (ih hbefore) hevent

theorem run_keeps {I : σ → Prop} {E : ε → Prop} (hstart : I s)
    (hstep : ∀ middle event next, I middle → E event → step middle event = some next → I next)
    (hevents : ∀ event ∈ events, E event) (h : run step s events = some s') : I s' := by
  refine run_invariant (I := fun events s ↦ (∀ event ∈ events, E event) → I s) (fun _ ↦ hstart)
    (fun before middle event next ih hevent hkind ↦ ?_) h hevents
  rw [List.forall_mem_append, List.forall_mem_singleton] at hkind
  exact hstep middle event next (ih hkind.1) hkind.2 hevent

variable (step) in
/-- Every event of a run meets a condition, in the state before it. -/
def Meets (C : σ → ε → Prop) : σ → List ε → Prop
  | _, [] => True
  | s, event :: events => C s event ∧ ∀ next, step s event = some next → Meets C next events

variable (step) in
instance decidableMeets (C : σ → ε → Prop) [∀ s event, Decidable (C s event)] :
    ∀ (s : σ) (events : List ε), Decidable (Meets step C s events)
  | _, [] => isTrue trivial
  | s, event :: events =>
    match hevent : step s event with
    | none => decidable_of_iff (C s event) ⟨fun h ↦ ⟨h, fun next hnext ↦ by simp_all⟩, And.left⟩
    | some next =>
      have := decidableMeets C next events
      decidable_of_iff (C s event ∧ Meets step C next events)
        ⟨fun h ↦ ⟨h.1, fun next' hnext ↦ Option.some.inj (hevent.symm.trans hnext) ▸ h.2⟩,
          fun h ↦ ⟨h.1, h.2 next hevent⟩⟩

theorem meets_snoc {C : σ → ε → Prop} : Meets step C s (events ++ [event]) ↔
    Meets step C s events ∧ ∀ middle, run step s events = some middle → C middle event := by
  induction events generalizing s with
  | nil => simp [Meets]
  | cons first events ih =>
    simp only [List.cons_append, Meets, ih, run_cons, Option.bind_eq_some_iff]
    constructor
    · rintro ⟨hfirst, hrest⟩
      refine ⟨⟨hfirst, fun next hnext ↦ (hrest next hnext).1⟩, ?_⟩
      rintro middle ⟨next, hnext, hmiddle⟩
      exact (hrest next hnext).2 middle hmiddle
    · rintro ⟨⟨hfirst, hrest⟩, hlast⟩
      exact ⟨hfirst, fun next hnext ↦ ⟨hrest next hnext, fun middle hmiddle ↦
        hlast middle ⟨next, hnext, hmiddle⟩⟩⟩

theorem run_keeps_of_meets {I : σ → Prop} {C : σ → ε → Prop} (hstart : I s)
    (hstep : ∀ middle event next, I middle → C middle event → step middle event = some next → I next)
    (hmeets : Meets step C s events) (h : run step s events = some s') : I s' := by
  induction events generalizing s with
  | nil =>
    obtain rfl := Option.some.inj h
    exact hstart
  | cons event events ih =>
    obtain ⟨middle, hevent, hrest⟩ := Option.bind_eq_some_iff.mp h
    exact ih (hstep s event middle hstart hmeets.1 hevent) (hmeets.2 middle hevent) hrest

end Transitions
