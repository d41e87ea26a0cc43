import HarnessTraining.Library.Transitions
import Mathlib.Logic.Function.Basic

/-!
# Memos over a shared store

A call reads the row of its key; from what it read it has its answer, and perhaps a row to write.  The
store keeps the first row of a key, a read that fails finds nothing, and a write takes effect late, or
never.  Any number of calls run at the same time.

* `run_sound` — what every row satisfies that a call writes, every row satisfies that a call reads; and
  every answer is that of the wrapper to such a row.
-/

set_option autoImplicit false

namespace Memo

variable {C K V R : Type}

/-- What calls do. -/
structure Wrapper (C K V R : Type) where
  key : C → K
  /-- The answer to a call that read a row, and the row that it writes. -/
  finish : C → Option V → R × Option V

inductive Phase (C V R : Type) where
  | idle
  | waiting (call : C) (row : Option V)
  | finished (call : C) (row : Option V) (answer : R)

structure State (C K V R : Type) where
  rows : K → Option V := fun _ ↦ none
  phases : ℕ → Phase C V R := fun _ ↦ .idle
  /-- The writes that have not taken effect. -/
  pending : ℕ → Option (K × V) := fun _ ↦ none

inductive Event (C : Type) where
  /-- A call begins and reads, unless the read fails. -/
  | read (id : ℕ) (call : C) (works : Bool)
  | finish (id : ℕ)
  /-- The write of a call takes effect. -/
  | write (id : ℕ)

section Step

variable (wrapper : Wrapper C K V R)

/-- What an event does, or nothing if it cannot happen. -/
def step [DecidableEq K] (s : State C K V R) : Event C → Option (State C K V R)
  | .read id call works =>
    match s.phases id with
    | .idle =>
      let row := if works then s.rows (wrapper.key call) else none
      some { s with phases := Function.update s.phases id (.waiting call row) }
    | _ => none
  | .finish id =>
    match s.phases id with
    | .waiting call row =>
      some { s with
        phases := Function.update s.phases id (.finished call row (wrapper.finish call row).1)
        pending := Function.update s.pending id ((wrapper.finish call row).2.map (wrapper.key call, ·)) }
    | _ => none
  | .write id =>
    match s.pending id with
    | some (key, row) =>
      some { s with
        rows := Function.update s.rows key (some ((s.rows key).getD row))
        pending := Function.update s.pending id none }
    | none => none

/-- The calls of an event. -/
def Event.Calls (Ok : C → Prop) : Event C → Prop
  | .read _ call _ => Ok call
  | _ => True

/-- A row that a call read is still there. -/
def Read (s : State C K V R) (call : C) (row : Option V) : Prop :=
  ∀ value, row = some value → s.rows (wrapper.key call) = some value

/-- After some events: `Good` rows, and answers to what was read. -/
structure Sound (Ok : C → Prop) (Good : K → V → Prop) (s : State C K V R) : Prop where
  rows : ∀ key row, s.rows key = some row → Good key row
  pending : ∀ id key row, s.pending id = some (key, row) → Good key row
  waiting : ∀ id call row, s.phases id = .waiting call row → Ok call ∧ Read wrapper s call row
  finished : ∀ id call row answer, s.phases id = .finished call row answer →
    Ok call ∧ Read wrapper s call row ∧ answer = (wrapper.finish call row).1

end Step

section Runs

variable {wrapper : Wrapper C K V R} {Ok : C → Prop} {Good : K → V → Prop}
  {s s' : State C K V R} {id : ℕ} {call : C} {row : Option V}

/-- A row stays. -/
theorem Read.write [DecidableEq K] {key : K} {value : V} {pending : ℕ → Option (K × V)} (h : Read wrapper s call row) :
    Read wrapper { s with
      rows := Function.update s.rows key (some ((s.rows key).getD value)), pending := pending } call row := by
  intro found hfound
  have hrow := h found hfound
  by_cases hkey : wrapper.key call = key
  · subst hkey
    dsimp only
    rw [Function.update_self, hrow, Option.getD_some]
  · dsimp only
    rwa [Function.update_of_ne hkey]

/-- A phase that one event has set. -/
theorem update_phase {phases : ℕ → Phase C V R} {phase phase' : Phase C V R} {id' : ℕ}
    (h : Function.update phases id phase id' = phase') : phase = phase' ∨ phases id' = phase' := by
  by_cases heq : id' = id
  · subst heq
    rw [Function.update_self] at h
    exact Or.inl h
  · rw [Function.update_of_ne heq] at h
    exact Or.inr h

theorem Sound.read (h : Sound wrapper Ok Good s) (hcall : Ok call) (works : Bool) :
    Sound wrapper Ok Good { s with
      phases := Function.update s.phases id
        (.waiting call (if works then s.rows (wrapper.key call) else none)) } where
  rows := h.rows
  pending := h.pending
  waiting id' call' row' hphase := by
    rcases update_phase hphase with hsame | hphase
    · obtain ⟨rfl, rfl⟩ := Phase.waiting.inj hsame
      refine ⟨hcall, fun value hvalue ↦ ?_⟩
      split at hvalue
      · exact hvalue
      · cases hvalue
    · exact h.waiting id' call' row' hphase
  finished id' call' row' answer hphase := by
    rcases update_phase hphase with hsame | hphase
    · cases hsame
    · exact h.finished id' call' row' answer hphase

theorem Sound.finish (h : Sound wrapper Ok Good s)
    (hfinish : ∀ call row, Ok call → (∀ value, row = some value → Good (wrapper.key call) value) →
      ∀ value, (wrapper.finish call row).2 = some value → Good (wrapper.key call) value)
    (hphase : s.phases id = .waiting call row) : Sound wrapper Ok Good { s with
      phases := Function.update s.phases id (.finished call row (wrapper.finish call row).1)
      pending := Function.update s.pending id
        ((wrapper.finish call row).2.map (wrapper.key call, ·)) } := by
  obtain ⟨hcall, hread⟩ := h.waiting id call row hphase
  refine ⟨h.rows, fun id' key value hpending ↦ ?_, fun id' call' row' hwaiting ↦ ?_,
    fun id' call' row' answer hfinished ↦ ?_⟩
  · by_cases heq : id' = id
    · subst heq
      dsimp only at hpending
      rw [Function.update_self, Option.map_eq_some_iff] at hpending
      obtain ⟨value', hvalue, hpair⟩ := hpending
      obtain ⟨rfl, rfl⟩ := Prod.mk.inj hpair
      exact hfinish call row hcall (fun found hfound ↦ h.rows _ _ (hread found hfound)) _ hvalue
    · dsimp only at hpending
      rw [Function.update_of_ne heq] at hpending
      exact h.pending id' key value hpending
  · rcases update_phase hwaiting with hsame | hwaiting
    · cases hsame
    · exact h.waiting id' call' row' hwaiting
  · rcases update_phase hfinished with hsame | hfinished
    · obtain ⟨rfl, rfl, rfl⟩ := Phase.finished.inj hsame
      exact ⟨hcall, hread, rfl⟩
    · exact h.finished id' call' row' answer hfinished

theorem Sound.write [DecidableEq K] (h : Sound wrapper Ok Good s) {key : K} {value : V}
    (hpending : s.pending id = some (key, value)) : Sound wrapper Ok Good { s with
      rows := Function.update s.rows key (some ((s.rows key).getD value))
      pending := Function.update s.pending id none } where
  rows key' value' hrow := by
    by_cases heq : key' = key
    · subst heq
      dsimp only at hrow
      rw [Function.update_self, Option.some_inj] at hrow
      cases hkey : s.rows key' with
      | none =>
        rw [hkey, Option.getD_none] at hrow
        exact hrow ▸ h.pending id key' value hpending
      | some first =>
        rw [hkey, Option.getD_some] at hrow
        exact hrow ▸ h.rows key' first hkey
    · dsimp only at hrow
      rw [Function.update_of_ne heq] at hrow
      exact h.rows key' value' hrow
  pending id' key' value' hwrite := by
    by_cases heq : id' = id
    · subst heq
      dsimp only at hwrite
      rw [Function.update_self] at hwrite
      cases hwrite
    · dsimp only at hwrite
      rw [Function.update_of_ne heq] at hwrite
      exact h.pending id' key' value' hwrite
  waiting id' call' row' hphase :=
    ⟨(h.waiting id' call' row' hphase).1, (h.waiting id' call' row' hphase).2.write⟩
  finished id' call' row' answer hphase :=
    ⟨(h.finished id' call' row' answer hphase).1, (h.finished id' call' row' answer hphase).2.1.write,
      (h.finished id' call' row' answer hphase).2.2⟩

theorem Sound.step [DecidableEq K] {event : Event C} (h : Sound wrapper Ok Good s)
    (hfinish : ∀ call row, Ok call → (∀ value, row = some value → Good (wrapper.key call) value) →
      ∀ value, (wrapper.finish call row).2 = some value → Good (wrapper.key call) value)
    (hevent : event.Calls Ok) (hstep : step wrapper s event = some s') : Sound wrapper Ok Good s' := by
  cases event with
  | read id call works =>
    rw [Memo.step] at hstep
    split at hstep
    · obtain rfl := Option.some.inj hstep
      exact h.read hevent works
    · cases hstep
  | finish id =>
    rw [Memo.step] at hstep
    split at hstep
    · next hphase =>
      obtain rfl := Option.some.inj hstep
      exact h.finish hfinish hphase
    · cases hstep
  | write id =>
    rw [Memo.step] at hstep
    split at hstep
    · next hpending =>
      obtain rfl := Option.some.inj hstep
      exact h.write hpending
    · cases hstep

/-- **The rule of memos.** -/
theorem run_sound [DecidableEq K] {rows : K → Option V} {events : List (Event C)}
    (hrows : ∀ key row, rows key = some row → Good key row)
    (hfinish : ∀ call row, Ok call → (∀ value, row = some value → Good (wrapper.key call) value) →
      ∀ value, (wrapper.finish call row).2 = some value → Good (wrapper.key call) value)
    (hevents : ∀ event ∈ events, event.Calls Ok)
    (hrun : Transitions.run (step wrapper) { rows := rows } events = some s) :
    Sound wrapper Ok Good s := by
  have hstart : Sound wrapper Ok Good ({ rows := rows } : State C K V R) :=
    ⟨hrows, by rintro _ _ _ ⟨⟩, by rintro _ _ _ ⟨⟩, by rintro _ _ _ _ ⟨⟩⟩
  exact Transitions.run_keeps hstart (fun _ _ _ h hevent hstep ↦ h.step hfinish hevent hstep) hevents hrun

end Runs

end Memo
