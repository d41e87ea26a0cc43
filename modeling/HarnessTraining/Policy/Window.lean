import HarnessTraining.Library.StateExcept
import HarnessTraining.Policy.Core
import Mathlib.Tactic.Linarith
import Mathlib.Tactic.Ring
import Mathlib.Algebra.Order.Field.Rat
import Mathlib.Order.Bounds.Basic

/-!
# What fits the window

`fit` drops the fewest groups that the step budget asks for, and none past the floor.  The note it puts
in their place is not counted, so a request can be over the budget by that note.

* `StopsAt` — where the loop stops;
* `fit_eq` — what `fit` returns;
* `fit_within_budget_iff` — when a fitted request is within the budget.
-/

set_option autoImplicit false

namespace HarnessTraining

open StateExcept

namespace ContextWindow

/-! ## Where the loop stops -/

/-- The loop over these counts stops after `n` of them: it reached the floor or the rest fits, and it
did neither before. -/
structure StopsAt (limit : ℚ) (floor : ℤ) (tokens : List ℕ) (n : ℕ) : Prop where
  within : n ≤ tokens.length
  stops : floor ≤ n ∨ ((tokens.drop n).sum : ℚ) ≤ limit
  least : ∀ m < n, (m : ℤ) < floor ∧ limit < ((tokens.drop m).sum : ℚ)

theorem stopsAt_zero {limit : ℚ} {floor : ℤ} {tokens : List ℕ} :
    StopsAt limit floor tokens 0 ↔ ¬(limit < (tokens.sum : ℚ) ∧ 0 < floor) := by
  constructor
  · rintro ⟨-, hstops, -⟩ ⟨hover, hfloor⟩
    rw [List.drop_zero] at hstops
    exact hstops.elim (fun h ↦ absurd hfloor (by simpa using h)) hover.not_ge
  · intro h
    refine ⟨Nat.zero_le _, ?_, by omega⟩
    rw [List.drop_zero]
    by_cases hover : limit < (tokens.sum : ℚ)
    · exact Or.inl (by simpa using fun hfloor ↦ h ⟨hover, hfloor⟩)
    · exact Or.inr (not_lt.mp hover)

theorem stopsAt_succ {limit : ℚ} {floor : ℤ} {count : ℕ} {tokens : List ℕ} {n : ℕ} :
    StopsAt limit floor (count :: tokens) (n + 1) ↔
      (limit < ((count :: tokens).sum : ℚ) ∧ 0 < floor) ∧ StopsAt limit (floor - 1) tokens n := by
  constructor
  · rintro ⟨hwithin, hstops, hleast⟩
    refine ⟨?_, by simpa using hwithin, ?_, fun m hm ↦ ?_⟩
    · have := hleast 0 n.succ_pos
      rw [List.drop_zero] at this
      exact ⟨this.2, by simpa using this.1⟩
    · rw [List.drop_succ_cons] at hstops
      exact hstops.imp_left fun h ↦ by omega
    · have := hleast (m + 1) (by omega)
      rw [List.drop_succ_cons] at this
      exact ⟨by omega, this.2⟩
  · rintro ⟨⟨hover, hfloor⟩, hwithin, hstops, hleast⟩
    refine ⟨by simpa using hwithin, ?_, fun m hm ↦ ?_⟩
    · rw [List.drop_succ_cons]
      exact hstops.imp_left fun h ↦ by omega
    · cases m with
      | zero => exact ⟨by simpa using hfloor, hover⟩
      | succ m =>
        have := hleast m (by omega)
        rw [List.drop_succ_cons]
        exact ⟨by omega, this.2⟩

theorem not_stopsAt_nil_succ {limit : ℚ} {floor : ℤ} {n : ℕ} : ¬StopsAt limit floor [] (n + 1) :=
  fun h ↦ absurd h.within (by simp)

theorem le_dropGroups {limit : ℚ} {floor : ℤ} : ∀ {tokens : List ℕ} {stepTokens : ℤ} {start n : ℕ},
    dropGroups limit floor stepTokens start tokens = .ok n → ∃ k, n = start + k
  | [], _, _, _, h => by
    rw [dropGroups] at h
    split at h
    · cases h
    · exact ⟨0, (Except.ok.inj h).symm⟩
  | _ :: _, _, _, _, h => by
    rw [dropGroups] at h
    split at h
    · obtain ⟨k, rfl⟩ := le_dropGroups h
      exact ⟨k + 1, by omega⟩
    · exact ⟨0, (Except.ok.inj h).symm⟩

theorem over_iff {limit : ℚ} {floor : ℤ} {start stepTokens : ℕ} :
    (limit < ((stepTokens : ℤ) : ℚ) ∧ (start : ℤ) < floor) ↔
      (limit < (stepTokens : ℚ) ∧ 0 < floor - start) := by
  rw [Int.cast_natCast, sub_pos]

/-- The loop returns where it stops. -/
theorem dropGroups_eq {limit : ℚ} {floor : ℤ} : ∀ {tokens : List ℕ} {start n : ℕ},
    dropGroups limit floor tokens.sum start tokens = .ok (start + n) ↔
      StopsAt limit (floor - start) tokens n
  | [], start, n => by
    rw [dropGroups, if_congr over_iff rfl rfl]
    cases n with
    | zero =>
      rw [stopsAt_zero]
      split
      · next hover => exact iff_of_false (by rintro ⟨⟩) (not_not.mpr hover)
      · next hstop => exact iff_of_true rfl hstop
    | succ n =>
      refine iff_of_false ?_ not_stopsAt_nil_succ
      split
      · rintro ⟨⟩
      · intro h
        have : start = start + (n + 1) := Except.ok.inj h
        omega
  | count :: tokens, start, n => by
    rw [dropGroups, if_congr over_iff rfl rfl]
    have hrest : (((count :: tokens).sum : ℕ) : ℤ) - count = (tokens.sum : ℕ) := by simp
    have hfloor : floor - ((start + 1 : ℕ) : ℤ) = floor - start - 1 := by push_cast; ring
    rw [hrest]
    cases n with
    | zero =>
      rw [stopsAt_zero]
      split
      · next hover =>
        refine iff_of_false (fun h ↦ ?_) (not_not.mpr hover)
        obtain ⟨k, hk⟩ := le_dropGroups h
        omega
      · next hstop => exact iff_of_true rfl hstop
    | succ n =>
      rw [stopsAt_succ, ← hfloor]
      split
      · next hover =>
        have hn : start + (n + 1) = start + 1 + n := by omega
        rw [hn, dropGroups_eq]
        exact (and_iff_right hover).symm
      · next hstop =>
        refine iff_of_false (fun h ↦ ?_) fun h ↦ hstop h.1
        have : start = start + (n + 1) := Except.ok.inj h
        omega

/-- The floor is reached before the groups run out. -/
theorem exists_dropGroups {limit : ℚ} {floor : ℤ} : ∀ {tokens : List ℕ} {stepTokens : ℤ} {start : ℕ},
    floor ≤ start + tokens.length → ∃ n, dropGroups limit floor stepTokens start tokens = .ok n
  | [], stepTokens, start, hfloor => by
    rw [List.length_nil, Nat.cast_zero, add_zero] at hfloor
    rw [dropGroups, if_neg fun hover ↦ absurd hover.2 hfloor.not_gt]
    exact ⟨start, rfl⟩
  | _ :: tokens, stepTokens, start, hfloor => by
    rw [dropGroups]
    split
    · rw [List.length_cons] at hfloor
      exact exists_dropGroups (by push_cast at hfloor ⊢; omega)
    · exact ⟨start, rfl⟩

/-! ## What `fit` returns -/

variable {window : ContextWindow} {head : List Message} {stepGroups : List (List Message)}
  {floor : ℤ} {turnMessages messages : List Message} {dropped : ℕ}

/-- What the head and the turn messages leave of the budget. -/
def stepBudget (window : ContextWindow) (head turnMessages : List Message) : ℚ :=
  window.budget - (window.estimateRequestTokens head +
    (turnMessages.map window.estimateMessageTokens).sum : ℕ)

/-- The tokens of the groups that stay when `n` are dropped. -/
def suffixTokens (window : ContextWindow) (stepGroups : List (List Message)) (n : ℕ) : ℕ :=
  ((stepGroups.map window.groupTokens).drop n).sum

/-- The head, a note if groups were dropped, and the groups that stay. -/
def fitted (head : List Message) (stepGroups : List (List Message)) (dropped : ℕ) : List Message :=
  head ++ (if dropped = 0 then [] else [omittedNote dropped]) ++ (stepGroups.drop dropped).flatten

theorem fit_bind : window.fit head stepGroups floor turnMessages =
    dropGroups (window.stepBudget head turnMessages) floor (stepGroups.map window.groupTokens).sum 0
      (stepGroups.map window.groupTokens) >>=
        fun start ↦ .ok (fitted head stepGroups start, start) := by
  refine congrArg (dropGroups _ floor _ 0 _ >>= ·) (funext fun start ↦ ?_)
  cases start with
  | zero => simp [fitted]; rfl
  | succ start => simp [fitted]; rfl

theorem fit_eq : window.fit head stepGroups floor turnMessages = .ok (messages, dropped) ↔
    StopsAt (window.stepBudget head turnMessages) floor (stepGroups.map window.groupTokens) dropped ∧
      messages = fitted head stepGroups dropped := by
  have hstops : dropGroups (window.stepBudget head turnMessages) floor
      (stepGroups.map window.groupTokens).sum 0 (stepGroups.map window.groupTokens) = .ok (0 + dropped) ↔
        StopsAt (window.stepBudget head turnMessages) (floor - (0 : ℕ))
          (stepGroups.map window.groupTokens) dropped := dropGroups_eq
  rw [zero_add, Nat.cast_zero, sub_zero] at hstops
  rw [fit_bind, ← hstops]
  constructor
  · intro h
    obtain ⟨start, hstart, hmessages⟩ := bind_eq_ok h
    obtain ⟨rfl, rfl⟩ := Prod.mk.inj (Except.ok.inj hmessages)
    exact ⟨hstart, rfl⟩
  · rintro ⟨hstart, rfl⟩
    rw [hstart, ok_bind]

/-- Nothing is raised if the floor is one of the groups. -/
theorem exists_fit (window : ContextWindow) (head turnMessages : List Message)
    (hfloor : floor ≤ stepGroups.length) :
    ∃ messages dropped, window.fit head stepGroups floor turnMessages = .ok (messages, dropped) := by
  have hdrop : ∃ n, dropGroups (window.stepBudget head turnMessages) floor
      (stepGroups.map window.groupTokens).sum 0 (stepGroups.map window.groupTokens) = .ok n :=
    exists_dropGroups (by simpa using hfloor)
  obtain ⟨n, hn⟩ := hdrop
  rw [fit_bind, hn, ok_bind]
  exact ⟨_, _, rfl⟩

/-- The loop stops at the fewest groups that end it. -/
theorem StopsAt.isLeast {n : ℕ} (h : StopsAt (window.stepBudget head turnMessages) floor
    (stepGroups.map window.groupTokens) n) :
    IsLeast {n : ℕ | floor ≤ n ∨
      (window.suffixTokens stepGroups n : ℚ) ≤ window.stepBudget head turnMessages} n := by
  refine ⟨h.stops, fun m hm ↦ ?_⟩
  by_contra hlt
  obtain ⟨hfloor, hover⟩ := h.least m (not_le.mp hlt)
  exact hm.elim hfloor.not_ge hover.not_ge

/-! ## The whole request -/

theorem estimateRequestTokens_append (ms ms' : List Message) :
    window.estimateRequestTokens (ms ++ ms') =
      window.estimateRequestTokens ms + (ms'.map window.estimateMessageTokens).sum := by
  simp only [estimateRequestTokens, List.map_append, List.sum_append]
  omega

theorem suffixTokens_eq (n : ℕ) : window.suffixTokens stepGroups n =
    ((stepGroups.drop n).flatten.map window.estimateMessageTokens).sum := by
  rw [suffixTokens, ← List.map_drop, List.map_flatten, List.sum_flatten, List.map_map]
  rfl

/-- The tokens of the note about `n` dropped groups. -/
def noteTokens (window : ContextWindow) (n : ℕ) : ℕ := window.estimateMessageTokens (omittedNote n)

theorem noteTokens_pos (n : ℕ) : 0 < window.noteTokens n := by
  rw [noteTokens, estimateMessageTokens]
  split
  · exact Nat.add_pos_right _ (by decide)
  · exact Nat.add_pos_right _ (by decide)

/-- What is sent: the head, the turn messages, the groups that stay, and the note. -/
theorem estimate_fitted (n : ℕ) :
    window.estimateRequestTokens (fitted head stepGroups n ++ turnMessages) =
      window.estimateRequestTokens head + (turnMessages.map window.estimateMessageTokens).sum +
        window.suffixTokens stepGroups n + if n = 0 then 0 else window.noteTokens n := by
  rw [fitted, estimateRequestTokens_append, estimateRequestTokens_append,
    estimateRequestTokens_append, ← suffixTokens_eq]
  split
  · simp only [List.map_nil, List.sum_nil]
    omega
  · simp only [List.map_cons, List.map_nil, List.sum_cons, List.sum_nil, noteTokens]
    omega

/-- Whenever groups are dropped short of the floor, what is left of the step budget holds the note. -/
def NoteFits (window : ContextWindow) (head : List Message) (stepGroups : List (List Message))
    (floor : ℤ) (turnMessages : List Message) : Prop :=
  ∀ n : ℕ, 0 < n → (n : ℤ) < floor →
    (∀ m < n, window.stepBudget head turnMessages < window.suffixTokens stepGroups m) →
    (window.suffixTokens stepGroups n : ℚ) ≤ window.stepBudget head turnMessages →
    (window.suffixTokens stepGroups n : ℚ) + window.noteTokens n ≤ window.stepBudget head turnMessages

/-- Short of the floor the loop stops at the fewest groups whose rest fits. -/
theorem stopsAt_iff {n : ℕ} (hn : (n : ℤ) < floor) :
    StopsAt (window.stepBudget head turnMessages) floor (stepGroups.map window.groupTokens) n ↔
      (∀ m < n, window.stepBudget head turnMessages < window.suffixTokens stepGroups m) ∧
        (window.suffixTokens stepGroups n : ℚ) ≤ window.stepBudget head turnMessages := by
  constructor
  · rintro ⟨-, hstops, hleast⟩
    exact ⟨fun m hm ↦ (hleast m hm).2, hstops.resolve_left hn.not_ge⟩
  · rintro ⟨hleast, hfits⟩
    refine ⟨?_, Or.inr hfits, fun m hm ↦ ⟨by omega, hleast m hm⟩⟩
    -- past the last group there is nothing left to fit
    by_contra hlong
    have hover := hleast (stepGroups.map window.groupTokens).length (by omega)
    rw [suffixTokens, List.drop_length] at hover
    rw [suffixTokens, List.drop_of_length_le (by omega)] at hfits
    exact absurd hfits hover.not_ge

theorem within_budget_iff {n : ℕ} :
    (window.estimateRequestTokens (fitted head stepGroups n ++ turnMessages) : ℚ) ≤ window.budget ↔
      (window.suffixTokens stepGroups n : ℚ) + (if n = 0 then 0 else window.noteTokens n : ℕ) ≤
        window.stepBudget head turnMessages := by
  rw [estimate_fitted, stepBudget]
  push_cast
  constructor
  · intro h
    linarith
  · intro h
    linarith

/-- **When a fitted request is within the budget.**  A request of which `fit` stopped dropping groups
before the floor is within the budget if and only if nothing was dropped or the note fits too. -/
theorem fit_within_budget_iff (window : ContextWindow) (head : List Message)
    (stepGroups : List (List Message)) (floor : ℤ) (turnMessages : List Message) :
    (∀ messages dropped,
      window.fit head stepGroups floor turnMessages = .ok (messages, dropped) →
        (dropped : ℤ) < floor →
          (window.estimateRequestTokens (messages ++ turnMessages) : ℚ) ≤ window.budget) ↔
      NoteFits window head stepGroups floor turnMessages := by
  constructor
  · intro h n hpos hn hleast hfits
    have hfit := fit_eq.mpr ⟨(stopsAt_iff hn).mpr ⟨hleast, hfits⟩, rfl⟩
    have hwithin := within_budget_iff.mp (h _ _ hfit hn)
    rwa [if_neg hpos.ne'] at hwithin
  · intro h messages dropped hfit hdropped
    obtain ⟨hstops, rfl⟩ := fit_eq.mp hfit
    obtain ⟨hleast, hfits⟩ := (stopsAt_iff hdropped).mp hstops
    rw [within_budget_iff]
    split
    · simpa using hfits
    · next hpos => exact h dropped (Nat.pos_of_ne_zero hpos) hdropped hleast hfits

end ContextWindow

/-! ## A note too many -/

/-- A window of sixty tokens, ten of them for the reply. -/
def tightWindow : ContextWindow := { maxContextLength := 60, maxCompletionTokens := 10, tools := [] }

def shortHead : List Message :=
  [{ role := .system, content := some "s" }, { role := .user, content := some "u" }]

/-- An executed step of seventeen tokens. -/
def shortGroup (id : String) : List Message := [
  { role := .assistant, content := none, toolCalls := [⟨id, "run", ""⟩] },
  { role := .tool, content := some "rc=0", toolCallId := some id }]

def shortGroups : List (List Message) :=
  [shortGroup "call_0001", shortGroup "call_0002", shortGroup "call_0003"]

theorem tight_budget : tightWindow.budget = 50 := by
  rw [ContextWindow.budget]
  norm_num [tightWindow]

theorem tight_stepBudget : tightWindow.stepBudget shortHead [] = 34 := by
  have hhead : tightWindow.estimateRequestTokens shortHead = 16 := by decide
  rw [ContextWindow.stepBudget, tight_budget, hhead]
  norm_num

/-- **The note is not counted.**  Two of three groups fill the budget, and the note comes on top. -/
theorem note_over_budget : ∃ messages,
    tightWindow.fit shortHead shortGroups 2 = .ok (messages, 1) ∧ (1 : ℤ) < 2 ∧
    tightWindow.budget < tightWindow.estimateRequestTokens (messages ++ []) := by
  have hall : tightWindow.suffixTokens shortGroups 0 = 51 := by decide
  have hrest : tightWindow.suffixTokens shortGroups 1 = 34 := by decide
  refine ⟨_, ContextWindow.fit_eq.mpr ⟨(ContextWindow.stopsAt_iff (by decide)).mpr ⟨?_, ?_⟩, rfl⟩,
    by decide, ?_⟩
  · intro m hm
    obtain rfl : m = 0 := by omega
    rw [tight_stepBudget, hall]
    norm_num
  · rw [tight_stepBudget, hrest]
    norm_num
  · have hnote : (0 : ℚ) < tightWindow.noteTokens 1 := by
      exact_mod_cast ContextWindow.noteTokens_pos 1
    rw [← not_le, ContextWindow.within_budget_iff, tight_stepBudget, hrest, if_neg (by decide), not_le]
    push_cast
    linarith

end HarnessTraining
