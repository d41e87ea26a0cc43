import HarnessTraining.Library.StateExcept
import HarnessTraining.Trainer.Loss
import Mathlib.Data.Finset.Card
import Mathlib.Tactic.Linarith
import Mathlib.Tactic.Positivity
import Mathlib.Tactic.NormNum

/-!
# What a verdict of `StrictPareto` means

`StrictPareto` judges with two ladders of branches, one for the number and one for the reason, and
returns a report in which regressions on untrusted tasks are excused.  This file says what comes
out.

* `Selects B C better` — the rule in one line: nothing of `B` is missing from `C`, and either `C`
  is larger or the two are equal and the tie breaks for the candidate.  It is monotone in `C`
  (`Selects.mono`), which is the whole reason two end points can stand for every resolution of the
  untrusted tasks in between.
* `lossValue_neg_iff` and `improvingReason_iff` — the two ladders, each against that rule.
* `strictPareto_verdict_exact` — a returned loss is negative exactly when the candidate is selected
  with nothing excused, and exactly when its reason says so.
* `strictPareto_bracket_complete` — the two-point bracket decides every resolution of the untrusted
  tasks, and it refuses to answer exactly when two resolutions disagree.
-/

set_option autoImplicit false

namespace HarnessTraining

open StateExcept

/-! ## The rule, over arbitrary sets

`signOf` is the rule with a tie-break that may fail to answer: the baseline set `B`, the candidate
set `C`, and the answer of the tie-break, which is looked at only when the two are equal. -/

section Rule

variable {α ε : Type*} [DecidableEq α] {B C D E : Finset α} {better : Prop}

/-- The candidate set `C` is preferred to the baseline set `B`. -/
def Selects (B C : Finset α) (better : Prop) : Prop :=
  B ⊆ C ∧ (B.card < C.card ∨ B = C ∧ better)

theorem selects_iff_of_subset (h : B ⊆ C) : Selects B C better ↔ B ≠ C ∨ better := by
  constructor
  · rintro ⟨-, hcard | ⟨-, hb⟩⟩
    · exact Or.inl fun heq ↦ hcard.ne (heq ▸ rfl)
    · exact Or.inr hb
  · intro hor
    refine ⟨h, ?_⟩
    by_cases heq : B = C
    · exact Or.inr ⟨heq, hor.resolve_left fun hne ↦ hne heq⟩
    · exact Or.inl (Finset.card_lt_card (h.ssubset_of_ne heq))

/-- Growing the candidate set never loses a preference. -/
theorem Selects.mono (h : Selects B C better) (hCD : C ⊆ D) : Selects B D better := by
  have hBD := h.1.trans hCD
  rw [selects_iff_of_subset hBD]
  rcases (selects_iff_of_subset h.1).mp h with hne | hb
  · -- were `B` equal to `D` it would be squeezed onto `C`
    exact Or.inl fun heq ↦ hne (h.1.antisymm (heq ▸ hCD))
  · exact Or.inr hb

/-- The sign of a comparison whose tie-break `tie` may raise. -/
def signOf (B C : Finset α) (tie : Except ε Bool) : Except ε Bool :=
  if B ⊆ C then if B = C then tie else .ok true else .ok false

variable {tie : Except ε Bool} {b b' : Bool}

theorem signOf_of_not_subset (h : ¬ B ⊆ C) : signOf B C tie = .ok false := if_neg h

theorem signOf_self : signOf B B tie = tie := by simp [signOf]

theorem signOf_of_ssubset (h : B ⊂ C) : signOf B C tie = .ok true := by
  rw [signOf, if_pos h.1, if_neg h.ne]

/-- A defined sign is monotone in the candidate set. -/
theorem signOf_mono (hCD : C ⊆ D) (hC : signOf B C tie = .ok true)
    (hD : signOf B D tie = .ok b) : b = true := by
  by_cases hBC : B ⊆ C
  · rcases (hBC.trans hCD).eq_or_ssubset with rfl | hlt
    · obtain rfl : B = C := hBC.antisymm hCD
      rw [hC] at hD
      exact (Except.ok.inj hD).symm
    · rw [signOf_of_ssubset hlt] at hD
      exact (Except.ok.inj hD).symm
  · rw [signOf_of_not_subset hBC] at hC
    cases hC

/-- **The bracket.**  If both ends of a chain of candidate sets have the same sign then so does
everything in between; in particular the tie-break is not consulted in vain in the middle. -/
theorem signOf_between (hCD : C ⊆ D) (hDE : D ⊆ E) (hC : signOf B C tie = .ok b)
    (hE : signOf B E tie = .ok b) : signOf B D tie = .ok b := by
  by_cases hBD : B ⊆ D
  · rcases hBD.eq_or_ssubset with rfl | hlt
    · -- a tie in the middle: one of the ends is this very tie, or the ends straddle it
      rcases hCD.eq_or_ssubset with rfl | hlt
      · exact hC
      · rw [signOf_of_not_subset hlt.2] at hC
        rcases hDE.eq_or_ssubset with rfl | hlt'
        · exact hE
        · rw [signOf_of_ssubset hlt', ← hC] at hE
          cases hE
    · rw [signOf_of_ssubset hlt]
      rwa [signOf_of_ssubset (hlt.trans_subset hDE)] at hE
  · rw [signOf_of_not_subset hBD]
    rwa [signOf_of_not_subset fun h ↦ hBD (h.trans hCD)] at hC

/-- If two sets of a chain have different signs then both ends have one. -/
theorem signOf_ends_of_ne {D' : Finset α} (hCD : C ⊆ D) (hDE : D ⊆ E) (hCD' : C ⊆ D')
    (hDE' : D' ⊆ E) (hD : signOf B D tie = .ok true) (hD' : signOf B D' tie = .ok false) :
    signOf B C tie = .ok false ∧ signOf B E tie = .ok true := by
  have hBD : B ⊆ D := by
    by_contra h
    rw [signOf_of_not_subset h] at hD
    cases hD
  constructor
  · by_cases hBC : B ⊆ C
    · rcases (hBC.trans hCD').eq_or_ssubset with rfl | hlt
      · obtain rfl : B = C := hBC.antisymm hCD'
        exact hD'
      · rw [signOf_of_ssubset hlt] at hD'
        cases hD'
    · exact signOf_of_not_subset hBC
  · rcases (hBD.trans hDE).eq_or_ssubset with rfl | hlt
    · obtain rfl : D = B := hDE.antisymm hBD
      exact hD
    · exact signOf_of_ssubset hlt

end Rule

/-! ## The secondary metrics -/

/-- The first metric whose outcome is neither tied nor unavailable says `candidateBetter`. -/
def SecondaryBetter (metrics : List SecondaryRewardMetric)
    (baseline candidate : ExperimentResult) : Prop :=
  ∃ before metric after, metrics = before ++ metric :: after ∧
    (∀ m ∈ before, ∃ reward, m.compare baseline candidate = .ok reward ∧
      (reward.outcome = .tied ∨ reward.outcome = .unavailable)) ∧
    ∃ reward, metric.compare baseline candidate = .ok reward ∧ reward.outcome = .candidateBetter

section Secondary

variable {baseline candidate : ExperimentResult}

theorem not_secondaryBetter_nil : ¬ SecondaryBetter [] baseline candidate := by
  rintro ⟨before, metric, after, h, -⟩
  simp at h

/-- What the head of the metric list does: it decides, or it hands over to the rest. -/
theorem secondaryBetter_cons {metric : SecondaryRewardMetric} {rest : List SecondaryRewardMetric}
    {reward : SecondaryRewardComparison} (h : metric.compare baseline candidate = .ok reward) :
    SecondaryBetter (metric :: rest) baseline candidate ↔
      reward.outcome = .candidateBetter ∨
        (reward.outcome = .tied ∨ reward.outcome = .unavailable) ∧
          SecondaryBetter rest baseline candidate := by
  constructor
  · rintro ⟨before, m, after, heq, hbefore, r, hr, hout⟩
    cases before with
    | nil =>
      obtain ⟨rfl, -⟩ := List.cons.inj heq
      obtain rfl : r = reward := Except.ok.inj (hr.symm.trans h)
      exact Or.inl hout
    | cons m' before =>
      obtain ⟨rfl, hrest⟩ := List.cons.inj heq
      obtain ⟨r', hr', hr'out⟩ := hbefore _ (List.mem_cons_self ..)
      obtain rfl : r' = reward := Except.ok.inj (hr'.symm.trans h)
      exact Or.inr ⟨hr'out, before, m, after, hrest,
        fun x hx ↦ hbefore x (List.mem_cons_of_mem _ hx), r, hr, hout⟩
  · rintro (hout | ⟨hout, before, m, after, rfl, hbefore, hm⟩)
    · exact ⟨[], metric, rest, rfl, by simp, reward, h, hout⟩
    · refine ⟨metric :: before, m, after, rfl, ?_, hm⟩
      intro x hx
      rcases List.mem_cons.mp hx with rfl | hx
      · exact ⟨reward, h, hout⟩
      · exact hbefore x hx

namespace StrictPareto

/-- A reason that announces an improvement. -/
def ImprovingReason (reason : String) : Prop :=
  reason = "strict_improvement_without_regression" ∨ reason = "secondary_reward_improvement"

instance (reason : String) : Decidable (ImprovingReason reason) :=
  inferInstanceAs (Decidable (_ ∨ _))

/-- Everything one turn of the tie-break loop can do. -/
theorem compareSecondary_cons {metric : SecondaryRewardMetric}
    {rest : List SecondaryRewardMetric} {reason : String}
    {rewards : List SecondaryRewardComparison}
    (h : compareSecondary baseline candidate (metric :: rest) = .ok (reason, rewards)) :
    ∃ reward, metric.compare baseline candidate = .ok reward ∧
      (reward.outcome = .candidateBetter ∧ reason = "secondary_reward_improvement" ∧
          rewards = [reward] ∨
        reward.outcome = .baselineBetter ∧ reason = "no_net_improvement" ∧ rewards = [reward] ∨
        (reward.outcome = .tied ∨ reward.outcome = .unavailable) ∧
          ∃ rewards', compareSecondary baseline candidate rest = .ok (reason, rewards') ∧
            rewards = reward :: rewards') := by
  rw [compareSecondary] at h
  obtain ⟨reward, hm, h⟩ := bind_eq_ok h
  refine ⟨reward, hm, ?_⟩
  cases hout : reward.outcome <;> simp only [hout] at h
  case candidateBetter => cases h; exact Or.inl ⟨rfl, rfl, rfl⟩
  case baselineBetter => cases h; exact Or.inr (Or.inl ⟨rfl, rfl, rfl⟩)
  all_goals
    obtain ⟨⟨reason', rewards'⟩, hrest, h⟩ := bind_eq_ok h
    cases h
    exact Or.inr (Or.inr ⟨by simp, rewards', hrest, rfl⟩)

/-- **The tie-break loop.**  Its reason and its weighted sum both say whether the candidate won:
the loop stops at the first decisive metric, so at most the last weight has a sign. -/
theorem compareSecondary_spec {metrics : List SecondaryRewardMetric} {reason : String}
    {rewards : List SecondaryRewardComparison}
    (h : compareSecondary baseline candidate metrics = .ok (reason, rewards)) (index : ℕ) :
    (ImprovingReason reason ↔ SecondaryBetter metrics baseline candidate) ∧
      (secondaryValue index rewards < 0 ↔ SecondaryBetter metrics baseline candidate) := by
  induction metrics generalizing reason rewards index with
  | nil =>
    cases h
    have hnot := @not_secondaryBetter_nil baseline candidate
    exact ⟨iff_of_false (by decide) hnot, iff_of_false (by simp [secondaryValue]) hnot⟩
  | cons metric rest ih =>
    obtain ⟨reward, hm, hcases⟩ := compareSecondary_cons h
    rw [secondaryBetter_cons hm]
    have hweight : (0 : ℚ) < (1 / 2) ^ (index + 1) := by positivity
    obtain ⟨hout, rfl, rfl⟩ | ⟨hout, rfl, rfl⟩ | ⟨hout, rewards', hrest, rfl⟩ := hcases
    · refine ⟨iff_of_true (by decide) (Or.inl hout), iff_of_true ?_ (Or.inl hout)⟩
      simp only [secondaryValue, hout, outcomeSign]
      linarith
    · refine ⟨iff_of_false (by decide) (by simp [hout]), iff_of_false ?_ (by simp [hout])⟩
      simp only [secondaryValue, hout, outcomeSign]
      linarith
    · -- an indecisive metric contributes nothing to either answer
      have hsign : outcomeSign reward.outcome = 0 := by rcases hout with h | h <;> rw [h] <;> rfl
      have hne : reward.outcome ≠ .candidateBetter := by rcases hout with h | h <;> rw [h] <;> decide
      obtain ⟨hreason, hvalue⟩ := ih hrest (index + 1)
      rw [secondaryValue, hsign, mul_zero, zero_add, hreason, hvalue]
      simp [hout, hne]

/-- Whether the tie breaks for the candidate, or the error a metric raised. -/
def tieSign (metrics : List SecondaryRewardMetric) (baseline candidate : ExperimentResult) :
    Except JudgeError Bool :=
  match compareSecondary baseline candidate metrics with
  | .error message => .error (.valueError message)
  | .ok (_, rewards) => .ok (decide (secondaryValue 0 rewards < 0))

end StrictPareto

end Secondary

/-! ## One view of the pair -/

namespace StrictPareto

variable {sp : StrictPareto} {baseline candidate : ExperimentResult}
  {solved invalid : Finset TaskId} {report : Comparison}

/-- Everything `resolve` can return, by the branch it took. -/
theorem resolve_cases (h : sp.resolve baseline candidate solved invalid = .ok report) :
    report.baseline = baseline ∧ report.candidateSolved = solved ∧
      report.invalidInfraTasks = invalid ∧
      (((solvedTaskIds baseline \ solved) \ invalid).Nonempty ∧
          report.reason = "regressed_baseline_tasks" ∨
        ¬ ((solvedTaskIds baseline \ solved) \ invalid).Nonempty ∧
          (solvedTaskIds baseline).card < solved.card ∧
          report.reason = "strict_improvement_without_regression" ∨
        ¬ ((solvedTaskIds baseline \ solved) \ invalid).Nonempty ∧
          ¬ (solvedTaskIds baseline).card < solved.card ∧
          compareSecondary baseline candidate sp.secondaryMetrics =
            .ok (report.reason, report.secondaryRewards)) := by
  simp only [resolve] at h
  split at h
  · cases h
  · rename_i reason rewards heq
    cases h
    refine ⟨rfl, rfl, rfl, ?_⟩
    simp only [compare] at heq
    split at heq
    · rename_i hreg
      cases heq
      exact Or.inl ⟨hreg, rfl⟩
    · rename_i hreg
      split at heq
      · rename_i hcard
        cases heq
        exact Or.inr (Or.inl ⟨hreg, hcard, rfl⟩)
      · rename_i hcard
        exact Or.inr (Or.inr ⟨hreg, hcard, heq⟩)

/-- The loss ladder of `resolve`, against the sets it was given. -/
theorem lossValue_neg_iff (h : sp.resolve baseline candidate solved invalid = .ok report) :
    lossValue report < 0 ↔ solvedTaskIds baseline \ solved ⊆ invalid ∧
      ((solvedTaskIds baseline).card < solved.card ∨
        (solvedTaskIds baseline).card = solved.card ∧
          SecondaryBetter sp.secondaryMetrics baseline candidate) := by
  obtain ⟨hb, hs, hi, hcases⟩ := resolve_cases h
  have hreg : report.regressions = (solvedTaskIds baseline \ solved) \ invalid := by
    rw [Comparison.regressions, Comparison.baselineSolved, hb, hs, hi]
  rw [← Finset.sdiff_eq_empty_iff_subset, ← Finset.not_nonempty_iff_eq_empty, lossValue, hreg]
  by_cases hne : ((solvedTaskIds baseline \ solved) \ invalid).Nonempty
  · rw [if_pos hne]
    exact iff_of_false (by simp) fun h ↦ h.1 hne
  rw [if_neg hne, hs, Comparison.baselineSolved, hb]
  rcases lt_trichotomy (solvedTaskIds baseline).card solved.card with hlt | heq | hgt
  · have hneg : -((solved.card : ℤ) - (solvedTaskIds baseline).card) < 0 := by omega
    rw [if_pos hneg.ne]
    exact iff_of_true (by exact_mod_cast hneg) ⟨hne, Or.inl hlt⟩
  · rw [if_neg (by omega)]
    have hsec : compareSecondary baseline candidate sp.secondaryMetrics =
        .ok (report.reason, report.secondaryRewards) := by
      rcases hcases with ⟨h', -⟩ | ⟨-, h', -⟩ | ⟨-, -, h'⟩
      · exact absurd h' hne
      · omega
      · exact h'
    rw [show ((secondaryValue 0 report.secondaryRewards : ℚ) : WithTop ℚ) < 0 ↔
      secondaryValue 0 report.secondaryRewards < 0 by norm_cast, (compareSecondary_spec hsec 0).2]
    simp [hne, heq]
  · have hpos : 0 < -((solved.card : ℤ) - (solvedTaskIds baseline).card) := by omega
    rw [if_pos hpos.ne']
    refine iff_of_false (fun hlt ↦ ?_) fun h ↦ by omega
    have : -((solved.card : ℤ) - (solvedTaskIds baseline).card) < 0 := by exact_mod_cast hlt
    omega

/-- The reason ladder of `resolve`.  It asks the metrics also when the candidate solved fewer
tasks, where the loss ladder does not. -/
theorem improvingReason_iff (h : sp.resolve baseline candidate solved invalid = .ok report) :
    ImprovingReason report.reason ↔ solvedTaskIds baseline \ solved ⊆ invalid ∧
      ((solvedTaskIds baseline).card < solved.card ∨
        SecondaryBetter sp.secondaryMetrics baseline candidate ∧
          ¬ (solvedTaskIds baseline).card < solved.card) := by
  obtain ⟨-, -, -, hcases⟩ := resolve_cases h
  rw [← Finset.sdiff_eq_empty_iff_subset, ← Finset.not_nonempty_iff_eq_empty]
  obtain ⟨hne, hr⟩ | ⟨hne, hcard, hr⟩ | ⟨hne, hcard, hsec⟩ := hcases
  · rw [hr]
    exact iff_of_false (by decide) fun h ↦ h.1 hne
  · rw [hr]
    exact iff_of_true (by decide) ⟨hne, Or.inl hcard⟩
  · rw [(compareSecondary_spec hsec 0).1]
    simp [hne, hcard]

/-- With nothing excused the loss ladder is the rule. -/
theorem lossValue_neg_iff_selects (h : sp.resolve baseline candidate solved ∅ = .ok report) :
    lossValue report < 0 ↔ Selects (solvedTaskIds baseline) solved
      (SecondaryBetter sp.secondaryMetrics baseline candidate) := by
  rw [lossValue_neg_iff h, Finset.subset_empty, Finset.sdiff_eq_empty_iff_subset, Selects]
  refine and_congr_right fun hsub ↦ or_congr_right (and_congr_left fun _ ↦ ?_)
  exact ⟨fun hcard ↦ Finset.eq_of_subset_of_card_le hsub hcard.ge, fun heq ↦ heq ▸ rfl⟩

/-! ## Calling the criterion -/

/-- The baseline a call judges against: the original, cut down to the candidate's panel. -/
abbrev judgedBaseline (candidate baseline : ExperimentResult) : ExperimentResult :=
  restrictToPanel baseline candidate.panel

/-- The sign of the loss when the untrusted tasks in `S` are declared solved and no regression is
excused; the error is that of a metric. -/
def signAt (sp : StrictPareto) (candidate baseline : ExperimentResult) (S : Finset TaskId) :
    Except JudgeError Bool :=
  (sp.resolve (judgedBaseline candidate baseline) candidate (solvedTaskIds candidate ∪ S) ∅).map
    fun report ↦ decide (lossValue report < 0)

/-- `resolve` fails only in a tie whose metrics fail. -/
theorem resolve_error {e : JudgeError}
    (h : sp.resolve baseline candidate solved ∅ = .error e) :
    solvedTaskIds baseline = solved ∧ tieSign sp.secondaryMetrics baseline candidate = .error e := by
  simp only [resolve] at h
  split at h
  · rename_i message heq
    cases h
    simp only [compare] at heq
    split at heq
    · cases heq
    · rename_i hreg
      split at heq
      · cases heq
      · rename_i hcard
        have hsub : solvedTaskIds baseline ⊆ solved := by
          simpa [Comparison.regressions, Comparison.baselineSolved] using hreg
        exact ⟨Finset.eq_of_subset_of_card_le hsub (not_lt.mp hcard), by rw [tieSign, heq]⟩
  · cases h

/-- The only exception of `resolve` is the `ValueError` of a metric. -/
theorem resolve_error_message {e : JudgeError}
    (h : sp.resolve baseline candidate solved invalid = .error e) :
    ∃ message, e = .valueError message := by
  simp only [resolve] at h
  split at h
  · rename_i message heq
    cases h
    exact ⟨message, rfl⟩
  · cases h

/-- A sign is the rule applied to the solved sets, with the secondary metrics as its tie-break. -/
theorem signAt_eq (S : Finset TaskId) :
    sp.signAt candidate baseline S =
      signOf (solvedTaskIds (judgedBaseline candidate baseline)) (solvedTaskIds candidate ∪ S)
        (tieSign sp.secondaryMetrics (judgedBaseline candidate baseline) candidate) := by
  rw [signAt]
  generalize judgedBaseline candidate baseline = b
  generalize solvedTaskIds candidate ∪ S = C
  cases hr : sp.resolve b candidate C ∅ with
  | ok report =>
    show Except.ok (decide (lossValue report < 0)) = _
    obtain ⟨-, -, -, hcases⟩ := resolve_cases hr
    rw [Finset.sdiff_empty, Finset.sdiff_nonempty] at hcases
    obtain ⟨hsub, -⟩ | ⟨hsub, hcard, -⟩ | ⟨hsub, hcard, hsec⟩ := hcases
    · rw [signOf_of_not_subset hsub, decide_eq_false fun h ↦
        hsub ((lossValue_neg_iff_selects hr).mp h).1]
    · rw [not_not] at hsub
      rw [signOf_of_ssubset ⟨hsub, fun h ↦ (Finset.card_le_card h).not_gt hcard⟩,
        decide_eq_true ((lossValue_neg_iff_selects hr).mpr ⟨hsub, Or.inl hcard⟩)]
    · rw [not_not] at hsub
      obtain rfl := Finset.eq_of_subset_of_card_le hsub (not_lt.mp hcard)
      rw [signOf_self, tieSign, hsec]
      have hneg := (lossValue_neg_iff hr).trans (by simp :
        _ ↔ SecondaryBetter sp.secondaryMetrics b candidate)
      exact congrArg Except.ok (decide_eq_decide.mpr
        (hneg.trans (compareSecondary_spec hsec 0).2.symm))
  | error e =>
    obtain ⟨rfl, htie⟩ := resolve_error hr
    rw [signOf_self, htie]
    rfl

/-- A sign is the sign of a view that could be resolved. -/
theorem signAt_eq_ok {S : Finset TaskId} {sign : Bool} :
    sp.signAt candidate baseline S = .ok sign ↔ ∃ report,
      sp.resolve (judgedBaseline candidate baseline) candidate (solvedTaskIds candidate ∪ S) ∅ =
        .ok report ∧ decide (lossValue report < 0) = sign := by
  rw [signAt]
  cases sp.resolve (judgedBaseline candidate baseline) candidate (solvedTaskIds candidate ∪ S) ∅ with
  | ok report => simp [Except.map]
  | error e => simp [Except.map]

/-- What the bracket does, by the signs of its two ends. -/
theorem bracket_cases (sp : StrictPareto) (candidate baseline : ExperimentResult)
    (hne : invalid.Nonempty) :
    (∃ sign, sp.signAt candidate baseline ∅ = .ok sign ∧
        sp.signAt candidate baseline invalid = .ok sign ∧
        sp.bracket (judgedBaseline candidate baseline) candidate (solvedTaskIds candidate)
          invalid = .ok ()) ∨
      (∃ sign decision, sp.signAt candidate baseline ∅ = .ok sign ∧
        sp.signAt candidate baseline invalid = .ok (!sign) ∧
        sp.bracket (judgedBaseline candidate baseline) candidate (solvedTaskIds candidate)
          invalid = .error (.unmeasurableRun decision)) ∨
      ((∃ e, sp.signAt candidate baseline ∅ = .error e) ∨
          ∃ e, sp.signAt candidate baseline invalid = .error e) ∧
        ∃ message, sp.bracket (judgedBaseline candidate baseline) candidate
          (solvedTaskIds candidate) invalid = .error (.valueError message) := by
  simp only [bracket, if_pos hne, signAt, Finset.union_empty]
  cases hp : sp.resolve (judgedBaseline candidate baseline) candidate (solvedTaskIds candidate) ∅ with
  | error e =>
    obtain ⟨message, rfl⟩ := resolve_error_message hp
    exact Or.inr (Or.inr ⟨Or.inl ⟨_, rfl⟩, message, rfl⟩)
  | ok pessimistic =>
    cases ho : sp.resolve (judgedBaseline candidate baseline) candidate
        (solvedTaskIds candidate ∪ invalid) ∅ with
    | error e =>
      obtain ⟨message, rfl⟩ := resolve_error_message ho
      exact Or.inr (Or.inr ⟨Or.inr ⟨_, rfl⟩, message, rfl⟩)
    | ok optimistic =>
      by_cases hsign : decide (lossValue pessimistic < 0) = decide (lossValue optimistic < 0)
      · exact Or.inl ⟨_, rfl, congrArg Except.ok hsign.symm, if_pos hsign⟩
      · exact Or.inr (Or.inl ⟨_, _, rfl, congrArg Except.ok (Bool.eq_not.mpr (Ne.symm hsign)),
          if_neg hsign⟩)

/-- Everything a call that returns a loss went through. -/
theorem call_ok {loss : Loss} (h : sp.call candidate baseline = .ok loss) :
    sp.bracket (judgedBaseline candidate baseline) candidate (solvedTaskIds candidate)
        (verdictSensitiveTaskIds candidate) = .ok () ∧
      sp.resolve (judgedBaseline candidate baseline) candidate (solvedTaskIds candidate)
        (verdictSensitiveTaskIds candidate) = .ok loss.report ∧
      loss.value = lossValue loss.report := by
  simp only [call] at h
  split at h
  · obtain ⟨u, hbracket, h⟩ := bind_eq_ok h
    obtain ⟨report, hreport, h⟩ := bind_eq_ok h
    cases h
    exact ⟨hbracket, hreport, rfl⟩
  · cases h

/-- A defined sign is the rule. -/
theorem signAt_ok {S : Finset TaskId} {sign : Bool}
    (h : sp.signAt candidate baseline S = .ok sign) :
    sign = true ↔ Selects (solvedTaskIds (judgedBaseline candidate baseline))
      (solvedTaskIds candidate ∪ S)
      (SecondaryBetter sp.secondaryMetrics (judgedBaseline candidate baseline) candidate) := by
  obtain ⟨report, hr, rfl⟩ := signAt_eq_ok.mp h
  rw [← lossValue_neg_iff_selects hr, decide_eq_true_iff]

/-- The two ends of the bracket agree on a returned loss. -/
theorem call_ends {loss : Loss} (h : sp.call candidate baseline = .ok loss) :
    ∃ sign, sp.signAt candidate baseline ∅ = .ok sign ∧
      sp.signAt candidate baseline (verdictSensitiveTaskIds candidate) = .ok sign := by
  obtain ⟨hbracket, hreport, -⟩ := call_ok h
  by_cases hne : (verdictSensitiveTaskIds candidate).Nonempty
  · obtain ⟨sign, hp, ho, -⟩ | ⟨_, _, -, -, hb⟩ | ⟨-, _, hb⟩ :=
      bracket_cases sp candidate baseline hne
    · exact ⟨sign, hp, ho⟩
    · rw [hb] at hbracket
      cases hbracket
    · rw [hb] at hbracket
      cases hbracket
  · rw [Finset.not_nonempty_iff_eq_empty] at hne
    rw [hne] at hreport ⊢
    have hsign := signAt_eq_ok.mpr ⟨loss.report, by rwa [Finset.union_empty], rfl⟩
    exact ⟨_, hsign, hsign⟩

/-- **Both ladders of a returned loss are the rule with nothing excused.**  The report excuses a
regression on an untrusted task, but the bracket has by then ruled out that it matters: were the
excused view to win where the plain one loses, the optimistic end would win as well. -/
theorem call_neg_iff {loss : Loss} (h : sp.call candidate baseline = .ok loss) :
    (loss.value < 0 ↔ Selects (solvedTaskIds (judgedBaseline candidate baseline))
        (solvedTaskIds candidate)
        (SecondaryBetter sp.secondaryMetrics (judgedBaseline candidate baseline) candidate)) ∧
      (ImprovingReason loss.report.reason ↔ Selects
        (solvedTaskIds (judgedBaseline candidate baseline)) (solvedTaskIds candidate)
        (SecondaryBetter sp.secondaryMetrics (judgedBaseline candidate baseline) candidate)) := by
  obtain ⟨-, hreport, hvalue⟩ := call_ok h
  rw [hvalue, lossValue_neg_iff hreport, improvingReason_iff hreport]
  have hends : Selects (solvedTaskIds (judgedBaseline candidate baseline))
        (solvedTaskIds candidate ∪ verdictSensitiveTaskIds candidate)
        (SecondaryBetter sp.secondaryMetrics (judgedBaseline candidate baseline) candidate) →
      Selects (solvedTaskIds (judgedBaseline candidate baseline)) (solvedTaskIds candidate)
        (SecondaryBetter sp.secondaryMetrics (judgedBaseline candidate baseline) candidate) := by
    obtain ⟨sign, hp, ho⟩ := call_ends h
    rw [← signAt_ok ho, signAt_ok hp, Finset.union_empty]
    exact id
  generalize solvedTaskIds (judgedBaseline candidate baseline) = B at hends ⊢
  generalize solvedTaskIds candidate = C at hends ⊢
  generalize verdictSensitiveTaskIds candidate = I at hends ⊢
  generalize SecondaryBetter sp.secondaryMetrics (judgedBaseline candidate baseline) candidate =
    better at hends ⊢
  -- an excused regression puts `B` inside `C ∪ I`; the optimistic end then loses only as a tie
  have hlost : B \ C ⊆ I → ¬ Selects B C better → B = C ∪ I ∧ ¬ better := by
    intro hsub hnot
    have hBCI : B ⊆ C ∪ I := sdiff_le_iff.mp hsub
    have hnot' := mt hends hnot
    rw [selects_iff_of_subset hBCI] at hnot'
    tauto
  constructor
  · constructor
    · rintro ⟨hsub, hor⟩
      by_contra hnot
      obtain ⟨heq, hb⟩ := hlost hsub hnot
      rcases hor with hcard | ⟨-, hb'⟩
      · exact hcard.not_ge (Finset.card_le_card (heq ▸ Finset.subset_union_left))
      · exact hb hb'
    · rintro ⟨hsub, hor⟩
      exact ⟨by simp [Finset.sdiff_eq_empty_iff_subset.mpr hsub],
        hor.imp id fun h ↦ ⟨by rw [h.1], h.2⟩⟩
  · constructor
    · rintro ⟨hsub, hor⟩
      by_contra hnot
      obtain ⟨heq, hb⟩ := hlost hsub hnot
      rcases hor with hcard | ⟨hb', -⟩
      · exact hcard.not_ge (Finset.card_le_card (heq ▸ Finset.subset_union_left))
      · exact hb hb'
    · rintro ⟨hsub, hor⟩
      exact ⟨by simp [Finset.sdiff_eq_empty_iff_subset.mpr hsub],
        hor.imp id fun h ↦ ⟨h.2, by rw [h.1]; exact lt_irrefl _⟩⟩

/-- A call refuses to answer only when its two ends disagree. -/
theorem call_unmeasurable {decision : ResultDecision}
    (h : sp.call candidate baseline = .error (.unmeasurableRun decision)) :
    ∃ sign, sp.signAt candidate baseline ∅ = .ok sign ∧
      sp.signAt candidate baseline (verdictSensitiveTaskIds candidate) = .ok (!sign) := by
  simp only [call] at h
  split at h
  · by_cases hne : (verdictSensitiveTaskIds candidate).Nonempty
    · obtain ⟨_, -, -, hb⟩ | ⟨sign, _, hp, ho, -⟩ | ⟨-, _, hb⟩ :=
        bracket_cases sp candidate baseline hne
      · rw [hb] at h
        obtain ⟨_, he⟩ := resolve_error_message (bind_pure_error h)
        cases he
      · exact ⟨sign, hp, ho⟩
      · rw [hb] at h
        cases h
    · rw [bracket, if_neg hne] at h
      obtain ⟨_, he⟩ := resolve_error_message (bind_pure_error h)
      cases he
  · cases h

/-- Its refusal reads as infra noise. -/
theorem call_unmeasurable_outcome {decision : ResultDecision}
    (h : sp.call candidate baseline = .error (.unmeasurableRun decision)) :
    decision.outcome = .invalidInfra := by
  simp only [call] at h
  split at h
  · cases hb : sp.bracket (judgedBaseline candidate baseline) candidate (solvedTaskIds candidate)
        (verdictSensitiveTaskIds candidate) with
    | ok u =>
      rw [hb] at h
      obtain ⟨_, he⟩ := resolve_error_message (bind_pure_error h)
      cases he
    | error e =>
      rw [hb] at h
      cases h
      rw [bracket] at hb
      split at hb
      · cases hp : sp.resolve (judgedBaseline candidate baseline) candidate
            (solvedTaskIds candidate) ∅ with
        | error e =>
          obtain ⟨_, rfl⟩ := resolve_error_message hp
          rw [hp] at hb
          cases hb
        | ok pessimistic =>
          cases ho : sp.resolve (judgedBaseline candidate baseline) candidate
              (solvedTaskIds candidate ∪ verdictSensitiveTaskIds candidate) ∅ with
          | error e =>
            obtain ⟨_, rfl⟩ := resolve_error_message ho
            rw [hp, ho] at hb
            cases hb
          | ok optimistic =>
            rw [hp, ho] at hb
            change (if _ then _ else _) = _ at hb
            split at hb
            · cases hb
            · cases hb
              rfl
      · cases hb
  · cases h

/-- ... and it does refuse whenever they disagree. -/
theorem call_of_ends_ne (hpanel : candidate.panel ⊆ baseline.panel) {sign : Bool}
    (hp : sp.signAt candidate baseline ∅ = .ok sign)
    (ho : sp.signAt candidate baseline (verdictSensitiveTaskIds candidate) = .ok (!sign)) :
    ∃ decision, sp.call candidate baseline = .error (.unmeasurableRun decision) := by
  have hne : (verdictSensitiveTaskIds candidate).Nonempty := by
    rw [Finset.nonempty_iff_ne_empty]
    intro hempty
    rw [hempty, hp] at ho
    cases sign <;> cases ho
  obtain ⟨_, hp', ho', -⟩ | ⟨_, decision, -, -, hb⟩ | ⟨⟨_, he⟩ | ⟨_, he⟩, -⟩ :=
    bracket_cases sp candidate baseline hne
  · rw [hp] at hp'
    rw [ho, ← hp'] at ho'
    cases sign <;> cases ho'
  · refine ⟨decision, ?_⟩
    simp only [call, if_pos hpanel]
    rw [hb]
    rfl
  · rw [hp] at he
    cases he
  · rw [ho] at he
    cases he

end StrictPareto

/-! ## The panel -/

theorem rollout?_restrictToPanel {experiment : ExperimentResult} {panel : Finset TaskId}
    {task : TaskId} {r : RolloutResult} :
    (restrictToPanel experiment panel).rollout? task = some r ↔
      experiment.rollout? task = some r ∧ task ∈ panel := by
  rw [ExperimentResult.rollout?_eq_some, ExperimentResult.rollout?_eq_some, AList.lookup,
    AList.lookup, ← Option.mem_def, ← Option.mem_def,
    List.mem_dlookup_iff (restrictToPanel experiment panel).tasks.nodupKeys,
    List.mem_dlookup_iff experiment.tasks.nodupKeys]
  simp [restrictToPanel, List.mem_filter]

/-- What the judged baseline solved is what the original solved on the panel. -/
theorem mem_solvedTaskIds_restrictToPanel {experiment : ExperimentResult} {panel : Finset TaskId}
    {task : TaskId} :
    task ∈ solvedTaskIds (restrictToPanel experiment panel) ↔
      task ∈ solvedTaskIds experiment ∧ task ∈ panel := by
  simp only [mem_solvedTaskIds, rollout?_restrictToPanel]
  exact ⟨fun ⟨r, ⟨hr, hp⟩, hs⟩ ↦ ⟨⟨r, hr, hs⟩, hp⟩, fun ⟨⟨r, hr, hs⟩, hp⟩ ↦ ⟨r, ⟨hr, hp⟩, hs⟩⟩

theorem solvedTaskIds_restrictToPanel (experiment : ExperimentResult) (panel : Finset TaskId) :
    solvedTaskIds (restrictToPanel experiment panel) = solvedTaskIds experiment ∩ panel := by
  ext task
  rw [mem_solvedTaskIds_restrictToPanel, Finset.mem_inter]

/-! ## The two theorems -/

/-- **The verdict is exact.**  Whenever `StrictPareto` returns a loss, it is negative exactly when
every panel task the baseline solved is solved by the candidate, untrusted tasks not excused, and
either the candidate solved strictly more or the first decisive metric of the tie says so; and
exactly when the report gives one of the two improving reasons. -/
theorem strictPareto_verdict_exact {sp : StrictPareto} {candidate baseline : ExperimentResult}
    {loss : Loss} (h : sp.call candidate baseline = .ok loss) :
    (loss.value < 0 ↔
      (∀ task ∈ candidate.panel, task ∈ solvedTaskIds baseline → task ∈ solvedTaskIds candidate) ∧
        ((solvedTaskIds baseline ∩ candidate.panel).card < (solvedTaskIds candidate).card ∨
          solvedTaskIds baseline ∩ candidate.panel = solvedTaskIds candidate ∧
            SecondaryBetter sp.secondaryMetrics (restrictToPanel baseline candidate.panel)
              candidate)) ∧
      (loss.value < 0 ↔ loss.report.reason = "strict_improvement_without_regression" ∨
        loss.report.reason = "secondary_reward_improvement") := by
  obtain ⟨hvalue, hreason⟩ := StrictPareto.call_neg_iff h
  refine ⟨?_, hvalue.trans hreason.symm⟩
  rw [hvalue, solvedTaskIds_restrictToPanel, Selects]
  refine and_congr_left fun _ ↦ ⟨fun hsub task hp hs ↦ ?_, fun hall task ht ↦ ?_⟩
  · exact hsub (Finset.mem_inter.mpr ⟨hs, hp⟩)
  · exact hall task (Finset.mem_inter.mp ht).2 (Finset.mem_inter.mp ht).1

/-- A run with the given rollouts, for small concrete cases. -/
def sampleRun (experimentId : String) (rollouts : List RolloutResult) : ExperimentResult where
  experimentId := experimentId
  gitCommitHash := experimentId
  measurementIdentity := ⟨"config", "provider", "regime"⟩
  tasks := (rollouts.map fun r ↦ (⟨r.taskId, some r⟩ : Σ _ : TaskId, Option RolloutResult)).toAList

/-- A rollout that published nothing, for small concrete cases. -/
def sampleRollout (task : TaskId) (mode : FailureMode) : RolloutResult where
  taskId := task
  failureMode := mode
  failureOrigin := if mode = .crash then some .env else none
  origin_iff := by split <;> simp [*]
  error_unsolved := by simp

/-- A crash on the one task the baseline solved: the regression is excused in the report, and the
candidate is still not selected. -/
theorem strictPareto_verdict_exact_excused :
    ∃ loss, (StrictPareto.mk [] false).call (sampleRun "c" [sampleRollout "t" .crash])
        (sampleRun "b" [sampleRollout "t" .solved]) = .ok loss ∧ ¬ loss.value < 0 := by
  have hok : ((StrictPareto.mk [] false).call (sampleRun "c" [sampleRollout "t" .crash])
      (sampleRun "b" [sampleRollout "t" .solved])).isOk = true := by decide
  cases h : (StrictPareto.mk [] false).call (sampleRun "c" [sampleRollout "t" .crash])
      (sampleRun "b" [sampleRollout "t" .solved]) with
  | ok loss =>
    refine ⟨loss, rfl, fun hneg ↦ ?_⟩
    have hall := ((strictPareto_verdict_exact h).1.mp hneg).1
    exact absurd (hall "t" (by decide) (by decide)) (by decide)
  | error e =>
    rw [h] at hok
    cases hok

/-- **The two-point bracket is complete.**  For a pair the criterion accepts: a returned loss has
the sign of every resolution of the untrusted tasks, and the criterion refuses to answer exactly
when two resolutions have different signs. -/
theorem strictPareto_bracket_complete {sp : StrictPareto} {candidate baseline : ExperimentResult}
    (hpanel : candidate.panel ⊆ baseline.panel) :
    (∀ loss, sp.call candidate baseline = .ok loss →
      ∀ S ⊆ verdictSensitiveTaskIds candidate,
        sp.signAt candidate baseline S = .ok (decide (loss.value < 0))) ∧
      ((∃ decision, sp.call candidate baseline = .error (.unmeasurableRun decision)) ↔
        ∃ S ⊆ verdictSensitiveTaskIds candidate, ∃ S' ⊆ verdictSensitiveTaskIds candidate,
          sp.signAt candidate baseline S = .ok true ∧
            sp.signAt candidate baseline S' = .ok false) := by
  constructor
  · intro loss h S hS
    obtain ⟨sign, hp, ho⟩ := StrictPareto.call_ends h
    have hvalue : sign = decide (loss.value < 0) := by
      rw [Bool.eq_iff_iff, decide_eq_true_iff, StrictPareto.signAt_ok hp, Finset.union_empty,
        (StrictPareto.call_neg_iff h).1]
    rw [← hvalue]
    rw [StrictPareto.signAt_eq] at hp ho ⊢
    exact signOf_between (Finset.union_subset_union_right (Finset.empty_subset S))
      (Finset.union_subset_union_right hS) hp ho
  constructor
  · rintro ⟨decision, h⟩
    obtain ⟨sign, hp, ho⟩ := StrictPareto.call_unmeasurable h
    rw [StrictPareto.signAt_eq] at hp ho
    -- the sign can only rise from the pessimistic end to the optimistic one
    cases sign with
    | true => exact absurd (signOf_mono (by simp) hp ho) (by decide)
    | false =>
      rw [← StrictPareto.signAt_eq] at hp ho
      exact ⟨_, Finset.Subset.refl _, ∅, Finset.empty_subset _, ho, hp⟩
  · rintro ⟨S, hS, S', hS', hneg, hpos⟩
    rw [StrictPareto.signAt_eq] at hneg hpos
    obtain ⟨hp, ho⟩ := signOf_ends_of_ne (C := solvedTaskIds candidate ∪ ∅)
      (E := solvedTaskIds candidate ∪ verdictSensitiveTaskIds candidate)
      (Finset.union_subset_union_right (Finset.empty_subset S))
      (Finset.union_subset_union_right hS)
      (Finset.union_subset_union_right (Finset.empty_subset S'))
      (Finset.union_subset_union_right hS') hneg hpos
    rw [← StrictPareto.signAt_eq] at hp ho
    exact StrictPareto.call_of_ends_ne hpanel hp ho

/-- A crash next to a solved task, with one task left to lose: the bracket straddles the verdict. -/
theorem strictPareto_bracket_complete_straddled :
    ∃ decision, (StrictPareto.mk [] false).call
        (sampleRun "c" [sampleRollout "s" .solved, sampleRollout "t" .crash])
        (sampleRun "b" [sampleRollout "s" .solved, sampleRollout "t" .hitStepCap]) =
      .error (.unmeasurableRun decision) :=
  (strictPareto_bracket_complete (by decide)).2.mpr
    ⟨{"t"}, by decide, ∅, by decide, by rfl, by rfl⟩

end HarnessTraining
