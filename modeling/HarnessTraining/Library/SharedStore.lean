import Mathlib.Data.List.Basic
import HarnessTraining.Library.Transitions

/-!
# Histories over a shared write-once store

Any number of parties put questions to a store that keeps the first value of every key.  A *history*
lists what happened, in the order in which it took effect.  A party that was told its write failed, or
that gave up on it, may still have written: the write then takes effect later, or never.

* `stored` — the store after a history.
* `Consistent` — every answered read is what the store held.
* `Consistent.origin` — a value that was read had been put by somebody.
* `stored_append` — a stored value stays.
-/

set_option autoImplicit false

namespace SharedStore

variable {ι ε : Type}

/-- One occurrence of a history. -/
inductive Occurrence (ι ε : Type) where
  /-- A party and what it did. -/
  | exchange (party : ι) (event : ε)
  /-- A write takes effect that its party was not told of. -/
  | commit (key value : String)
  deriving DecidableEq

/-- What an event asks of the store: the key and value of a write, with whether it was
acknowledged; and the key of a read that was answered, with the answer. -/
structure Access (ε : Type) where
  put? : ε → Option (String × String × Bool)
  get? : ε → Option (String × Option String)

section Store

variable (access : Access ε)

/-- The write that an occurrence stands for. -/
def written? : Occurrence ι ε → Option (String × String)
  | .exchange _ event =>
    match access.put? event with
    | some (key, value, true) => some (key, value)
    | _ => none
  | .commit key value => some (key, value)

/-- The store after a history: the first write of a key wins. -/
def stored (history : List (Occurrence ι ε)) (key : String) : Option String :=
  (history.filterMap (written? access)).lookup key

/-- What a party did. -/
def projection [DecidableEq ι] (party : ι) (history : List (Occurrence ι ε)) : List ε :=
  history.filterMap fun
    | .exchange party' event => if party' = party then some event else none
    | .commit _ _ => none

/-- Reads are answered from the store, and a write takes effect late only if somebody has put it. -/
structure Consistent (history : List (Occurrence ι ε)) : Prop where
  reads : ∀ before party event after key value, history = before ++ .exchange party event :: after →
    access.get? event = some (key, value) → value = stored access before key
  commits : ∀ before key value after, history = before ++ .commit key value :: after →
    ∃ party event, .exchange party event ∈ before ∧ access.put? event = some (key, value, false)

end Store

section Facts

variable {access : Access ε} {history before after : List (Occurrence ι ε)} {key value : String}

/-- The store after two parts of a history. -/
theorem stored_append_eq (before after : List (Occurrence ι ε)) (key : String) :
    stored access (before ++ after) key =
      (stored access before key).or (stored access after key) := by
  rw [stored, stored, stored, List.filterMap_append, List.lookup_append]

/-- A stored value stays. -/
theorem stored_append (h : stored access before key = some value) :
    stored access (before ++ after) key = some value := by
  rw [stored_append_eq, h]
  rfl

theorem projection_append [DecidableEq ι] (party : ι) (before after : List (Occurrence ι ε)) :
    projection party (before ++ after) = projection party before ++ projection party after :=
  List.filterMap_append

theorem projection_exchange [DecidableEq ι] (party : ι) (event : ε) :
    projection party [Occurrence.exchange party event] = [event] := by
  simp [projection]

/-- Where a party did something. -/
theorem exists_of_projection [DecidableEq ι] {party : ι} {first later : List ε} {event : ε} :
    ∀ {history : List (Occurrence ι ε)}, projection party history = first ++ event :: later →
      ∃ before after, history = before ++ .exchange party event :: after ∧
        projection party before = first := by
  intro history h
  obtain ⟨before, rest, rfl, hbefore, hrest⟩ := List.filterMap_eq_append_iff.mp h
  obtain ⟨skipped, occurrence, after, rfl, hskipped, hevent, -⟩ := List.filterMap_eq_cons_iff.mp hrest
  cases occurrence with
  | commit key value => cases hevent
  | exchange party' event' =>
    dsimp only at hevent
    split at hevent
    · next hparty =>
      obtain rfl := Option.some.inj hevent
      subst hparty
      refine ⟨before ++ skipped, after, by rw [List.append_assoc], ?_⟩
      rw [projection, List.filterMap_append, hbefore, List.filterMap_eq_nil_iff.mpr hskipped,
        List.append_nil]
    · cases hevent

theorem mem_projection [DecidableEq ι] {party : ι} {event : ε} :
    event ∈ projection party history ↔ .exchange party event ∈ history := by
  rw [projection, List.mem_filterMap]
  constructor
  · rintro ⟨party' | _, hmem, heq⟩
    · dsimp only at heq
      split at heq
      · next hparty =>
        obtain rfl := Option.some.inj heq
        exact hparty ▸ hmem
      · cases heq
    · cases heq
  · intro hmem
    exact ⟨_, hmem, if_pos rfl⟩

theorem lookup_eq_some_mem {β : Type} {entries : List (String × β)} {key : String} {value : β}
    (h : entries.lookup key = some value) : (key, value) ∈ entries := by
  obtain ⟨before, after, rfl, -⟩ := List.lookup_eq_some_iff.mp h
  simp

/-- What a party does, event by event. -/
def speech (party : ι) (events : List ε) : List (Occurrence ι ε) := events.map (.exchange party)

theorem speech_append (party : ι) (events events' : List ε) :
    speech party (events ++ events') = speech party events ++ speech party events' :=
  List.map_append

theorem projection_speech [DecidableEq ι] (party party' : ι) (events : List ε) :
    projection party (speech party' events) = if party' = party then events else [] := by
  rw [projection, speech, List.filterMap_map]
  split
  · next hparty => simp [hparty]
  · next hparty => simp [hparty]

theorem Consistent.nil : Consistent access ([] : List (Occurrence ι ε)) := by
  constructor
  · intro before _ _ after _ _ h
    exact absurd h.symm (by simp)
  · intro before _ _ after h
    exact absurd h.symm (by simp)

variable (hconsistent : Consistent access history)

include hconsistent

/-- One more event, which reads what the store holds if it reads. -/
theorem Consistent.snoc {party : ι} {event : ε}
    (hreads : ∀ key value, access.get? event = some (key, value) →
      value = stored access history key) :
    Consistent access (history ++ [.exchange party event]) := by
  constructor
  · intro before party' event' after key value hsplit hget
    rcases Transitions.split_snoc hsplit with ⟨rfl, hlast⟩ | ⟨rest, hhistory⟩
    · obtain ⟨-, rfl⟩ := Occurrence.exchange.inj hlast
      exact hreads key value hget
    · exact hconsistent.reads _ _ _ _ _ _ hhistory hget
  · intro before key value after hsplit
    rcases Transitions.split_snoc hsplit with ⟨-, hlast⟩ | ⟨rest, hhistory⟩
    · cases hlast
    · exact hconsistent.commits _ _ _ _ hhistory

/-- A party that does not read. -/
theorem Consistent.speech {party : ι} {events : List ε}
    (hevents : ∀ event ∈ events, access.get? event = none) :
    Consistent access (history ++ speech party events) := by
  induction events generalizing history with
  | nil => rwa [SharedStore.speech, List.map_nil, List.append_nil]
  | cons event events ih =>
    rw [List.forall_mem_cons] at hevents
    rw [SharedStore.speech, List.map_cons, ← List.singleton_append, ← List.append_assoc]
    refine ih (hconsistent.snoc fun key value hget ↦ ?_) hevents.2
    cases hevents.1.symm.trans hget

/-- A value in the store had been put by somebody. -/
theorem Consistent.put (hhistory : history = before ++ after)
    (h : stored access before key = some value) :
    ∃ party event first rest, history = first ++ .exchange party event :: rest ∧
      first.length < before.length ∧
      ∃ acknowledged, access.put? event = some (key, value, acknowledged) := by
  obtain ⟨occurrence, hmem, hwritten⟩ := List.mem_filterMap.mp (lookup_eq_some_mem h)
  obtain ⟨first, rest, rfl⟩ := List.append_of_mem hmem
  have hlength : first.length < (first ++ occurrence :: rest).length := by simp
  rw [List.append_assoc, List.cons_append] at hhistory
  cases occurrence with
  | exchange party event =>
    refine ⟨party, event, first, rest ++ after, hhistory, hlength, ?_⟩
    rw [written?] at hwritten
    split at hwritten
    · next hput =>
      cases hwritten
      exact ⟨true, hput⟩
    · cases hwritten
  | commit key' value' =>
    -- the write that took effect late had been put before
    cases hwritten
    obtain ⟨party, event, hevent, hput⟩ := hconsistent.commits first key value _ hhistory
    obtain ⟨first', rest', rfl⟩ := List.append_of_mem hevent
    refine ⟨party, event, first', _, by rw [hhistory, List.append_assoc, List.cons_append], ?_, false,
      hput⟩
    simp only [List.length_append, List.length_cons] at hlength ⊢
    omega

/-- **A value that was read had been put by somebody.** -/
theorem Consistent.origin {party : ι} {event : ε}
    (hhistory : history = before ++ .exchange party event :: after)
    (hget : access.get? event = some (key, some value)) :
    ∃ party' event' first rest, history = first ++ .exchange party' event' :: rest ∧
      first.length < before.length ∧
      ∃ acknowledged, access.put? event' = some (key, value, acknowledged) :=
  hconsistent.put hhistory (hconsistent.reads before party event after key _ hhistory hget).symm

end Facts

end SharedStore
