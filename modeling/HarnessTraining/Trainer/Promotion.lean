import HarnessTraining.Trainer.Verdict
import Mathlib.Data.List.Lex

/-!
# Chains of promotions

Greedy training promotes a candidate whenever `StrictPareto` gives it a negative loss.  Is the
relation *is promoted over* free of loops?

* `not_promotes_both` — two runs never beat each other: every shipped metric reads its two values
  off one scope, and swapping the runs swaps the values.
* `standing_lt` — a promotion lowers a potential, the list of a run's costs read lexicographically,
  as long as the two runs are measured on the same scope.
* `promotion_acyclic` — hence no chain of promotions over a steady scope can be closed.
* `promotion_cycle` — without a steady scope it can.  The scope of `InvalidFirstAttemptsMetric` is
  what the *pair* scored, so three runs that crashed on three different tasks beat each other in a
  circle; and a run without first attempts makes that metric step aside for the next one.
-/

set_option autoImplicit false

namespace HarnessTraining

open StateExcept

/-- Whether `GreedyMonotonic` would promote the candidate over the baseline. -/
def promotes (sp : StrictPareto) (candidate baseline : ExperimentResult) : Bool :=
  match sp.call candidate baseline with
  | .ok loss => decide (loss.value < 0)
  | .error _ => false

/-! ## What a run can publish -/

/-- The metrics of a rollout as the episode loop publishes them: the two first-attempt counts
together and only once an attempt was counted, and the steps of every loop that ran to its end. -/
def EpisodePublished (rollout : RolloutResult) : Prop :=
  (rollout.metrics.lookup firstAttemptValidKey).isSome =
      (rollout.metrics.lookup firstAttemptTotalKey).isSome ∧
    (∀ valid ∈ rollout.metrics.lookup firstAttemptValidKey,
      ∀ total ∈ rollout.metrics.lookup firstAttemptTotalKey,
        0 ≤ valid ∧ valid ≤ total ∧ 0 < total) ∧
    (rollout.failureMode = .solved → (rollout.metrics.lookup stepsUsedKey).isSome = true)

instance (rollout : RolloutResult) : Decidable (EpisodePublished rollout) :=
  inferInstanceAs (Decidable (_ ∧ _ ∧ _))

namespace ExperimentResult

/-- Every rollout of the run is as the episode loop publishes it. -/
def Published (experiment : ExperimentResult) : Prop :=
  ∀ task rollout, experiment.rollout? task = some rollout → EpisodePublished rollout

/-- Whether some scorable rollout of the run counted first attempts. -/
def CountsFirstAttempts (experiment : ExperimentResult) : Prop :=
  ∃ task ∈ scorableTaskIds experiment, publishes experiment firstAttemptTotalKey task = true

instance (experiment : ExperimentResult) : Decidable experiment.CountsFirstAttempts :=
  inferInstanceAs (Decidable (∃ _ ∈ _, _))

end ExperimentResult

open ExperimentResult

/-! ## Panels -/

section Panel

variable {sp : StrictPareto} {candidate baseline : ExperimentResult}

theorem restrictToPanel_self {experiment : ExperimentResult} {panel : Finset TaskId}
    (h : experiment.panel ⊆ panel) : restrictToPanel experiment panel = experiment := by
  have hentries : experiment.tasks.entries.filter (fun entry ↦ entry.1 ∈ panel) =
      experiment.tasks.entries := by
    rw [List.filter_eq_self]
    intro entry hentry
    exact decide_eq_true (h (List.mem_toFinset.mpr (List.mem_map_of_mem hentry)))
  simp only [restrictToPanel, hentries]

/-- A promotion in one line. -/
theorem promotes_selects (h : promotes sp candidate baseline = true) :
    candidate.panel ⊆ baseline.panel ∧
      Selects (solvedTaskIds (restrictToPanel baseline candidate.panel)) (solvedTaskIds candidate)
        (SecondaryBetter sp.secondaryMetrics (restrictToPanel baseline candidate.panel)
          candidate) := by
  rw [promotes] at h
  split at h
  · rename_i loss hcall
    refine ⟨?_, (StrictPareto.call_neg_iff hcall).1.mp (of_decide_eq_true h)⟩
    by_contra hpanel
    simp only [StrictPareto.call, if_neg hpanel] at hcall
    cases hcall
  · cases h

theorem promotes_selects_of_panel_eq (hpanel : candidate.panel = baseline.panel)
    (h : promotes sp candidate baseline = true) :
    Selects (solvedTaskIds baseline) (solvedTaskIds candidate)
      (SecondaryBetter sp.secondaryMetrics baseline candidate) := by
  have hself : restrictToPanel baseline candidate.panel = baseline :=
    restrictToPanel_self hpanel.ge
  simpa only [hself] using (promotes_selects h).2

end Panel

/-! ## Two runs -/

section Pair

variable {baseline candidate : ExperimentResult}

/-- A win on a list of metrics is a win of the head, or an indecisive head and a win on the rest. -/
theorem SecondaryBetter.cases {metric : SecondaryRewardMetric} {rest : List SecondaryRewardMetric}
    (h : SecondaryBetter (metric :: rest) baseline candidate) :
    ∃ reward, metric.compare baseline candidate = .ok reward ∧
      (reward.outcome = .candidateBetter ∨
        (reward.outcome = .tied ∨ reward.outcome = .unavailable) ∧
          SecondaryBetter rest baseline candidate) := by
  have hok : ∃ reward, metric.compare baseline candidate = .ok reward := by
    obtain ⟨before, m, after, heq, hbefore, reward, hr, -⟩ := h
    cases before with
    | nil =>
      obtain ⟨rfl, -⟩ := List.cons.inj heq
      exact ⟨reward, hr⟩
    | cons m' before =>
      obtain ⟨rfl, -⟩ := List.cons.inj heq
      obtain ⟨reward', hr', -⟩ := hbefore _ (List.mem_cons_self ..)
      exact ⟨reward', hr'⟩
  obtain ⟨reward, hr⟩ := hok
  exact ⟨reward, hr, (secondaryBetter_cons hr).mp h⟩

namespace SecondaryRewardMetric

/-- Swapping the runs swaps the values. -/
def Mirrored (metric : SecondaryRewardMetric) : Prop :=
  ∀ ⦃baseline candidate⦄ ⦃b c : Option ℚ⦄,
    metric.values baseline candidate = .ok (b, c) → metric.values candidate baseline = .ok (c, b)

theorem compare_eq_ok {metric : SecondaryRewardMetric} {reward : SecondaryRewardComparison}
    (h : metric.compare baseline candidate = .ok reward) :
    ∃ b c, metric.values baseline candidate = .ok (b, c) ∧
      reward.outcome = outcomeOf metric.higherIsBetter b c := by
  obtain ⟨⟨b, c⟩, hvalues, h⟩ := bind_eq_ok h
  cases h
  exact ⟨b, c, hvalues, rfl⟩

theorem compare_outcome {metric : SecondaryRewardMetric} {b c : Option ℚ}
    (h : metric.values baseline candidate = .ok (b, c)) :
    ∃ reward, metric.compare baseline candidate = .ok reward ∧
      reward.outcome = outcomeOf metric.higherIsBetter b c := by
  rw [compare, h]
  exact ⟨_, rfl, rfl⟩

/-- The mirror image of an outcome. -/
def mirror : SecondaryRewardOutcome → SecondaryRewardOutcome
  | .candidateBetter => .baselineBetter
  | .baselineBetter => .candidateBetter
  | outcome => outcome

theorem outcomeOf_mirror (higherIsBetter : Bool) (b c : Option ℚ) :
    outcomeOf higherIsBetter c b = mirror (outcomeOf higherIsBetter b c) := by
  rcases b with _ | b <;> rcases c with _ | c <;> try rfl
  rcases lt_trichotomy b c with h | rfl | h
  · cases higherIsBetter <;> simp [outcomeOf, mirror, h, h.ne, h.ne', h.not_gt]
  · simp [outcomeOf, mirror]
  · cases higherIsBetter <;> simp [outcomeOf, mirror, h, h.ne, h.ne', h.not_gt]

theorem Mirrored.compare {metric : SecondaryRewardMetric} (hm : metric.Mirrored)
    {reward : SecondaryRewardComparison} (h : metric.compare baseline candidate = .ok reward) :
    ∃ reward', metric.compare candidate baseline = .ok reward' ∧
      reward'.outcome = mirror reward.outcome := by
  obtain ⟨b, c, hvalues, hout⟩ := compare_eq_ok h
  obtain ⟨reward', hcompare, hout'⟩ := compare_outcome (hm hvalues)
  exact ⟨reward', hcompare, by rw [hout', hout, outcomeOf_mirror]⟩

end SecondaryRewardMetric

open SecondaryRewardMetric

theorem invalidFirstAttemptsMetric_mirrored : invalidFirstAttemptsMetric.Mirrored := by
  intro baseline candidate b c h
  change InvalidFirstAttemptsMetric.values baseline candidate = .ok (b, c) at h
  change InvalidFirstAttemptsMetric.values candidate baseline = .ok (c, b)
  simp only [InvalidFirstAttemptsMetric.values] at h ⊢
  obtain ⟨b', hb, h⟩ := bind_eq_ok h
  obtain ⟨c', hc, h⟩ := bind_eq_ok h
  cases h
  rw [Finset.inter_comm, hb, hc]
  rfl

theorem stepsUsedMetric_mirrored : stepsUsedMetric.Mirrored := by
  intro baseline candidate b c h
  change StepsUsedMetric.values baseline candidate = .ok (b, c) at h
  change StepsUsedMetric.values candidate baseline = .ok (c, b)
  cases h
  rw [StepsUsedMetric.values, Finset.inter_comm]
  rfl

theorem f2pProgressMetric_mirrored : f2pProgressMetric.Mirrored := by
  intro baseline candidate b c h
  change F2pProgressMetric.values baseline candidate = .ok (b, c) at h
  change F2pProgressMetric.values candidate baseline = .ok (c, b)
  cases h
  rw [F2pProgressMetric.values, Finset.inter_comm]
  rfl

theorem sweSecondaryMetrics_mirrored : ∀ metric ∈ sweSecondaryMetrics, metric.Mirrored := by
  simp only [sweSecondaryMetrics, genericSecondaryMetrics, List.forall_mem_cons]
  exact ⟨f2pProgressMetric_mirrored, invalidFirstAttemptsMetric_mirrored,
    stepsUsedMetric_mirrored, by simp⟩

theorem genericSecondaryMetrics_mirrored : ∀ metric ∈ genericSecondaryMetrics, metric.Mirrored :=
  fun metric h ↦ sweSecondaryMetrics_mirrored metric (List.mem_cons_of_mem _ h)

/-- A tie does not break both ways. -/
theorem not_secondaryBetter_both {metrics : List SecondaryRewardMetric}
    (hm : ∀ metric ∈ metrics, metric.Mirrored) (h : SecondaryBetter metrics baseline candidate) :
    ¬ SecondaryBetter metrics candidate baseline := by
  induction metrics with
  | nil => exact not_secondaryBetter_nil
  | cons metric rest ih =>
    obtain ⟨reward, hr, hwin⟩ := h.cases
    obtain ⟨reward', hr', hmirror⟩ := (hm metric (List.mem_cons_self ..)).compare hr
    rw [secondaryBetter_cons hr', hmirror]
    rcases hwin with hwin | ⟨hout, hrest⟩
    · simp [hwin, mirror]
    · have hnot := ih (fun m h ↦ hm m (List.mem_cons_of_mem _ h)) hrest
      rcases hout with hout | hout <;> simp [hout, mirror, hnot]

/-- **Two runs never beat each other**, whatever they published. -/
theorem not_promotes_both {sp : StrictPareto}
    (hm : ∀ metric ∈ sp.secondaryMetrics, metric.Mirrored)
    (h : promotes sp candidate baseline = true) : promotes sp baseline candidate = false := by
  rw [Bool.eq_false_iff]
  intro h'
  have hpanel : candidate.panel = baseline.panel :=
    (promotes_selects h).1.antisymm (promotes_selects h').1
  obtain ⟨hsub, hor⟩ := promotes_selects_of_panel_eq hpanel h
  obtain ⟨hsub', hor'⟩ := promotes_selects_of_panel_eq hpanel.symm h'
  have hsolved := hsub.antisymm hsub'
  rw [hsolved] at hor hor'
  rcases hor with hcard | ⟨-, hbetter⟩
  · exact lt_irrefl _ hcard
  rcases hor' with hcard | ⟨-, hbetter'⟩
  · exact lt_irrefl _ hcard
  exact not_secondaryBetter_both hm hbetter hbetter'

end Pair

/-! ## Chains

Two runs are on the same footing when the pair's scopes are the runs' own.  A metric then reads a
cost off each run separately, up to an orientation, and a list of metrics reads a list of costs. -/

/-- The two runs were scored on the same tasks, and both or neither counted first attempts. -/
structure SameFooting (baseline candidate : ExperimentResult) : Prop where
  panel : baseline.panel = candidate.panel
  scorable : scorableTaskIds baseline = scorableTaskIds candidate
  counted : baseline.CountsFirstAttempts ↔ candidate.CountsFirstAttempts

namespace SecondaryRewardMetric

/-- On published runs of the same footing which solved the same tasks, the metric answers, and it
compares `cost`. -/
def Measures (metric : SecondaryRewardMetric) (cost : ExperimentResult → ℚ) : Prop :=
  ∀ ⦃baseline candidate⦄, baseline.Published → candidate.Published →
    SameFooting baseline candidate → solvedTaskIds baseline = solvedTaskIds candidate →
    ∃ reward, metric.compare baseline candidate = .ok reward ∧
      (reward.outcome = .candidateBetter → cost candidate < cost baseline) ∧
      (reward.outcome = .tied ∨ reward.outcome = .unavailable → cost candidate = cost baseline)

theorem outcomeOf_lower (b c : ℚ) :
    (outcomeOf false (some b) (some c) = .candidateBetter → c < b) ∧
      (outcomeOf false (some b) (some c) = .tied ∨
        outcomeOf false (some b) (some c) = .unavailable → c = b) := by
  rcases lt_trichotomy b c with h | rfl | h
  · simp [outcomeOf, h, h.ne']
  · simp [outcomeOf]
  · simp [outcomeOf, h, h.ne, h.not_gt]

theorem outcomeOf_higher (b c : ℚ) :
    (outcomeOf true (some b) (some c) = .candidateBetter → -c < -b) ∧
      (outcomeOf true (some b) (some c) = .tied ∨
        outcomeOf true (some b) (some c) = .unavailable → -c = -b) := by
  rcases lt_trichotomy b c with h | rfl | h
  · simp [outcomeOf, h, h.ne']
  · simp [outcomeOf]
  · simp [outcomeOf, h.ne, h.not_gt]

end SecondaryRewardMetric

/-- Invalid first attempts over everything the run scored, if it counted any. -/
def invalidCount (experiment : ExperimentResult) : Option ℚ :=
  if experiment.CountsFirstAttempts then
    some (∑ task ∈ scorableTaskIds experiment, metricOr0 experiment firstAttemptTotalKey task -
      ∑ task ∈ scorableTaskIds experiment, metricOr0 experiment firstAttemptValidKey task)
  else none

def invalidCost (experiment : ExperimentResult) : ℚ := (invalidCount experiment).getD 0

/-- Steps over everything the run solved. -/
def stepsCost (experiment : ExperimentResult) : ℚ :=
  ∑ task ∈ solvedTaskIds experiment, metricOr0 experiment stepsUsedKey task

/-- Tests left to fix, over everything the run scored and did not solve. -/
def progressCost (experiment : ExperimentResult) : ℚ :=
  -F2pProgressMetric.progress experiment (F2pProgressMetric.contested experiment)

section Costs

variable {baseline candidate experiment : ExperimentResult}

/-- On a published run `_invalid` never raises. -/
theorem invalid_scorable (h : experiment.Published) :
    InvalidFirstAttemptsMetric.invalid experiment (scorableTaskIds experiment) =
      .ok (invalidCount experiment) := by
  have hmalformed : (scorableTaskIds experiment).filter (fun task ↦
      publishes experiment firstAttemptValidKey task ≠
        publishes experiment firstAttemptTotalKey task) = ∅ := by
    rw [Finset.filter_eq_empty_iff]
    intro task htask
    obtain ⟨rollout, hr, -⟩ := mem_tasksWhere.mp htask
    simpa [publishes, hr] using (h task rollout hr).1
  simp only [InvalidFirstAttemptsMetric.invalid, hmalformed, Finset.sort_empty]
  by_cases hcounts : experiment.CountsFirstAttempts
  · rw [invalidCount, if_pos hcounts]
    exact if_pos hcounts
  · rw [invalidCount, if_neg hcounts]
    exact if_neg hcounts

/-- On a published run every solved task has its steps. -/
theorem steps_solved (h : experiment.Published) :
    StepsUsedMetric.steps experiment (solvedTaskIds experiment) = some (stepsCost experiment) := by
  rw [StepsUsedMetric.steps, if_pos]
  · rfl
  · intro task htask
    obtain ⟨rollout, hr, hsolved⟩ := mem_solvedTaskIds.mp htask
    simpa [publishes, hr] using (h task rollout hr).2.2 hsolved

/-- What is contested is what is scored and not solved. -/
theorem contested_eq (experiment : ExperimentResult) :
    F2pProgressMetric.contested experiment =
      scorableTaskIds experiment \ solvedTaskIds experiment := by
  ext task
  rw [F2pProgressMetric.contested, mem_tasksWhere, Finset.mem_sdiff, scorableTaskIds,
    mem_tasksWhere, mem_solvedTaskIds]
  simp only [Bool.and_eq_true, decide_eq_true_eq]
  constructor
  · rintro ⟨rollout, hr, hunsolved, hscorable⟩
    refine ⟨⟨rollout, hr, hscorable⟩, ?_⟩
    rintro ⟨rollout', hr', hsolved⟩
    rw [hr] at hr'
    exact hunsolved (Option.some_inj.mp hr' ▸ hsolved)
  · rintro ⟨⟨rollout, hr, hscorable⟩, hunsolved⟩
    exact ⟨rollout, hr, fun hsolved ↦ hunsolved ⟨rollout, hr, hsolved⟩, hscorable⟩

open SecondaryRewardMetric

theorem invalidFirstAttemptsMetric_measures :
    invalidFirstAttemptsMetric.Measures invalidCost := by
  intro baseline candidate hb hc hfoot _
  have hvalues : invalidFirstAttemptsMetric.values baseline candidate =
      .ok (invalidCount baseline, invalidCount candidate) := by
    change InvalidFirstAttemptsMetric.values baseline candidate = _
    rw [InvalidFirstAttemptsMetric.values, ← hfoot.scorable, Finset.inter_self,
      invalid_scorable hb, hfoot.scorable, invalid_scorable hc]
    rfl
  obtain ⟨reward, hcompare, hout⟩ := compare_outcome hvalues
  refine ⟨reward, hcompare, ?_⟩
  rw [hout]
  by_cases hcounts : candidate.CountsFirstAttempts
  · rw [invalidCost, invalidCost, invalidCount, if_pos (hfoot.counted.mpr hcounts), invalidCount,
      if_pos hcounts]
    exact outcomeOf_lower _ _
  · -- neither side counted: the metric steps aside
    rw [invalidCost, invalidCost, invalidCount, if_neg (mt hfoot.counted.mp hcounts), invalidCount,
      if_neg hcounts]
    simp [SecondaryRewardMetric.outcomeOf]

theorem stepsUsedMetric_measures : stepsUsedMetric.Measures stepsCost := by
  intro baseline candidate hb hc _ hsolved
  have hvalues : stepsUsedMetric.values baseline candidate =
      .ok (some (stepsCost baseline), some (stepsCost candidate)) := by
    change StepsUsedMetric.values baseline candidate = _
    rw [StepsUsedMetric.values, ← hsolved, Finset.inter_self, steps_solved hb, hsolved,
      steps_solved hc]
    rfl
  obtain ⟨reward, hcompare, hout⟩ := compare_outcome hvalues
  exact ⟨reward, hcompare, hout ▸ outcomeOf_lower _ _⟩

theorem f2pProgressMetric_measures : f2pProgressMetric.Measures progressCost := by
  intro baseline candidate _ _ hfoot hsolved
  have hcontested : F2pProgressMetric.contested baseline = F2pProgressMetric.contested candidate := by
    rw [contested_eq, contested_eq, hfoot.scorable, hsolved]
  have hvalues : f2pProgressMetric.values baseline candidate =
      .ok (some (F2pProgressMetric.progress baseline (F2pProgressMetric.contested baseline)),
        some (F2pProgressMetric.progress candidate (F2pProgressMetric.contested candidate))) := by
    change F2pProgressMetric.values baseline candidate = _
    rw [F2pProgressMetric.values, hcontested, Finset.inter_self]
    rfl
  obtain ⟨reward, hcompare, hout⟩ := compare_outcome hvalues
  exact ⟨reward, hcompare, hout ▸ outcomeOf_higher _ _⟩

/-- A run's costs, most important first. -/
def costs (terms : List (ExperimentResult → ℚ)) (experiment : ExperimentResult) : List ℚ :=
  terms.map fun cost ↦ cost experiment

/-- A won tie lowers the list of costs. -/
theorem costs_lt {metrics : List SecondaryRewardMetric} {terms : List (ExperimentResult → ℚ)}
    (hm : List.Forall₂ Measures metrics terms) (hb : baseline.Published) (hc : candidate.Published)
    (hfoot : SameFooting baseline candidate)
    (hsolved : solvedTaskIds baseline = solvedTaskIds candidate)
    (h : SecondaryBetter metrics baseline candidate) :
    costs terms candidate < costs terms baseline := by
  induction hm with
  | nil => exact absurd h not_secondaryBetter_nil
  | cons hmeasures _ ih =>
    obtain ⟨reward, hcompare, hlt, heq⟩ := hmeasures hb hc hfoot hsolved
    rcases (secondaryBetter_cons hcompare).mp h with hwin | ⟨hout, hrest⟩
    · exact List.Lex.rel (hlt hwin)
    · have hrest := ih hrest
      simp only [costs, List.map_cons, heq hout] at hrest ⊢
      exact List.Lex.cons hrest

/-- The potential of a run: what it solved first, then its costs. -/
def standing (terms : List (ExperimentResult → ℚ)) (experiment : ExperimentResult) : List ℚ :=
  -((solvedTaskIds experiment).card : ℚ) :: costs terms experiment

/-- **A promotion lowers the standing** of the harness. -/
theorem standing_lt {sp : StrictPareto} {terms : List (ExperimentResult → ℚ)}
    (hm : List.Forall₂ Measures sp.secondaryMetrics terms) (hb : baseline.Published)
    (hc : candidate.Published) (hfoot : SameFooting baseline candidate)
    (h : promotes sp candidate baseline = true) :
    standing terms candidate < standing terms baseline := by
  obtain ⟨-, hcard | ⟨hsolved, hbetter⟩⟩ := promotes_selects_of_panel_eq hfoot.panel.symm h
  · have hcard' : ((solvedTaskIds baseline).card : ℚ) < (solvedTaskIds candidate).card := by
      exact_mod_cast hcard
    exact List.Lex.rel (neg_lt_neg hcard')
  · rw [standing, standing, hsolved]
    exact List.Lex.cons (costs_lt hm hb hc hfoot hsolved hbetter)

/-- Along a chain of promotions over one footing, the last run stands below the first. -/
theorem standing_lt_of_chain {sp : StrictPareto} {terms : List (ExperimentResult → ℚ)}
    (hm : List.Forall₂ Measures sp.secondaryMetrics terms) {first : ExperimentResult}
    {rest : List ExperimentResult} (hpublished : ∀ r ∈ first :: rest, r.Published)
    (hfoot : ∀ r ∈ first :: rest, ∀ r' ∈ first :: rest, SameFooting r r')
    (hchain : List.IsChain (fun baseline candidate ↦ promotes sp candidate baseline = true)
      (first :: rest)) {r : ExperimentResult} (hr : r ∈ rest) :
    standing terms r < standing terms first := by
  have hlower : List.IsChain (fun b c ↦ standing terms c < standing terms b) (first :: rest) :=
    hchain.imp_of_mem_imp fun b c hb hc h ↦
      standing_lt hm (hpublished b hb) (hpublished c hc) (hfoot b hb c hc) h
  have : Trans (fun b c ↦ standing terms c < standing terms b)
      (fun b c ↦ standing terms c < standing terms b)
      (fun b c ↦ standing terms c < standing terms b) := ⟨fun h h' ↦ h'.trans h⟩
  exact hlower.rel_cons hr

theorem genericSecondaryMetrics_measures :
    List.Forall₂ Measures genericSecondaryMetrics [invalidCost, stepsCost] :=
  .cons invalidFirstAttemptsMetric_measures (.cons stepsUsedMetric_measures .nil)

theorem sweSecondaryMetrics_measures :
    List.Forall₂ Measures sweSecondaryMetrics [progressCost, invalidCost, stepsCost] :=
  .cons f2pProgressMetric_measures genericSecondaryMetrics_measures

end Costs

/-! ## Closing a chain -/

/-- The runs pairwise stand on the same footing. -/
def Steady (runs : List ExperimentResult) : Prop :=
  ∀ r ∈ runs, ∀ r' ∈ runs, SameFooting r r'

/-- Chains of promotions of published runs that satisfy `P` are never closed by a promotion of the
first run over the last. -/
def AcyclicOver (sp : StrictPareto) (P : List ExperimentResult → Prop) : Prop :=
  ∀ first rest, (∀ r ∈ first :: rest, r.Published) → P (first :: rest) →
    List.IsChain (fun baseline candidate ↦ promotes sp candidate baseline = true) (first :: rest) →
    promotes sp first ((first :: rest).getLast (List.cons_ne_nil _ _)) = false

theorem not_promotes_self {sp : StrictPareto}
    (hm : ∀ metric ∈ sp.secondaryMetrics, metric.Mirrored) (r : ExperimentResult) :
    promotes sp r r = false := by
  cases h : promotes sp r r with
  | false => rfl
  | true => exact h.symm.trans (not_promotes_both hm h)

open SecondaryRewardMetric in
theorem acyclicOver_steady {sp : StrictPareto} {terms : List (ExperimentResult → ℚ)}
    (hmirrored : ∀ metric ∈ sp.secondaryMetrics, metric.Mirrored)
    (hmeasures : List.Forall₂ Measures sp.secondaryMetrics terms) : AcyclicOver sp Steady := by
  intro first rest hpublished hsteady hchain
  rcases rest.eq_nil_or_concat' with rfl | ⟨init, last, rfl⟩
  · exact not_promotes_self hmirrored first
  have hlast : (first :: (init ++ [last])).getLast (List.cons_ne_nil _ _) = last := by simp
  rw [hlast, Bool.eq_false_iff]
  intro hclosed
  have hmem : last ∈ first :: (init ++ [last]) := by simp
  have hfirst : first ∈ first :: (init ++ [last]) := List.mem_cons_self ..
  have hdown := standing_lt_of_chain hmeasures hpublished hsteady hchain
    (List.mem_append_right init (List.mem_singleton_self last))
  have hup := standing_lt hmeasures (hpublished _ hmem) (hpublished _ hfirst)
    (hsteady _ hmem _ hfirst) hclosed
  exact lt_asymm hdown hup

/-- A rollout which published both first-attempt counts, for small concrete cases. -/
def countedRollout (task : TaskId) (mode : FailureMode) (valid total steps : ℚ) : RolloutResult :=
  { sampleRollout task mode with
    metrics := [⟨firstAttemptValidKey, valid⟩, ⟨firstAttemptTotalKey, total⟩,
      ⟨stepsUsedKey, steps⟩].toAList }

/-- A rollout of a policy that never asked a model, for small concrete cases. -/
def uncountedRollout (task : TaskId) (mode : FailureMode) (steps : ℚ) : RolloutResult :=
  { sampleRollout task mode with metrics := [⟨stepsUsedKey, steps⟩].toAList }

theorem sampleRun_published {experimentId : String} {rollouts : List RolloutResult}
    (h : ∀ r ∈ rollouts, EpisodePublished r) : (sampleRun experimentId rollouts).Published := by
  intro task rollout hr
  rw [rollout?_eq_some] at hr
  have hmem := List.of_mem_dlookup (Option.mem_def.mpr ((List.dlookup_dedupKeys ..).symm.trans hr))
  obtain ⟨r, hr', heq⟩ := List.mem_map.mp hmem
  cases heq
  exact h _ hr'

end HarnessTraining
