import HarnessTraining.Env.LineOrder
import HarnessTraining.Replay.Codec

/-!
# Recording and materializing in lockstep

A replayed step is hashed twice: when it is served, from the raw result in the store, and when it is
executed again, from the result the environment boundary has scrubbed.  Both hashes scrub, so the
second one scrubs twice, and a faithful environment is taken for one that drifted whenever scrubbing
an observation again changes it.

* `Settled` — no stage of the scrub rewrites the text.
* `scrubNondeterminism_settled` — a settled observation is scrubbed to itself.
* `scrubbedHash_lockstep` — the two hashes agree if the observation is settled, and exactly when a
  second scrub leaves its lines, up to their order and their trailing white space.
* `scrubbedHash_drifts` — a header whose name is lower-cased is an address to the second scrub.
-/

set_option autoImplicit false

namespace HarnessTraining

open Regex

namespace Unicode

variable {u : Unicode}

/-! ## Line breaks of a scrubbed text -/

theorem mem_joinLines_of_mem {lines : List Line} {line : Line} {c : Char} (hline : line ∈ lines)
    (hc : c ∈ line) : c ∈ joinLines lines := by
  induction lines with
  | nil => cases hline
  | cons first lines ih =>
    cases lines with
    | nil =>
      rw [joinLines_singleton]
      exact List.mem_singleton.mp hline ▸ hc
    | cons second lines =>
      rw [joinLines_cons_cons, List.mem_append, List.mem_cons]
      rcases List.mem_cons.mp hline with rfl | hline
      · exact Or.inl hc
      · exact Or.inr (Or.inr (ih hline))

theorem joinLines_splitOn (text : List Char) : joinLines (text.splitOn '\n') = text :=
  List.intercalate_splitOn '\n'

theorem not_mem_of_mem_splitOn {text line : List Char} (h : line ∈ text.splitOn '\n') :
    '\n' ∉ line := by
  induction text generalizing line with
  | nil =>
    rw [List.splitOn_nil, List.mem_singleton] at h
    simp [h]
  | cons c text ih =>
    rw [List.splitOn_cons_eq_if_modifyHead] at h
    obtain ⟨first, lines, hsplit⟩ := List.exists_cons_of_ne_nil (List.splitOn_ne_nil '\n' text)
    rw [hsplit] at h ih
    split at h
    · rcases List.mem_cons.mp h with rfl | h
      · simp
      · exact ih h
    · rename_i hc
      rw [List.modifyHead_cons] at h
      rcases List.mem_cons.mp h with rfl | h
      · rw [List.mem_cons, not_or]
        exact ⟨fun heq ↦ hc (beq_iff_eq.mpr heq.symm), ih (List.mem_cons_self ..)⟩
      · exact ih (List.mem_cons_of_mem _ h)

theorem not_mem_normalizeNewlines (text : List Char) : '\r' ∉ normalizeNewlines text := by
  fun_induction normalizeNewlines with
  | case1 => simp
  | case2 rest ih => simp [ih]
  | case3 rest _ ih => simp [ih]
  | case4 c rest _ hcr ih =>
    rw [List.mem_cons, not_or]
    exact ⟨fun h ↦ hcr h.symm, ih⟩

/-- The lines of a scrubbed text, before they are put together again. -/
def scrubbedLines (u : Unicode) (command : Option (List Char)) (text : List Char) : List Line :=
  u.normalizeLines (u.canonicalizeStructuralHeaders
    ((normalizeNewlines (u.scrubResidual command text)).splitOn '\n'))

theorem scrubNondeterminism_eq (command : Option (List Char)) (text : List Char) :
    u.scrubNondeterminism text command = joinLines (u.scrubbedLines command text) := rfl

theorem inline_scrubbedLines (command : Option (List Char)) (text : List Char) :
    ∀ line ∈ u.scrubbedLines command text, Inline line := by
  refine inline_normalizeLines fun line hline ↦ ⟨not_mem_of_mem_splitOn hline, fun hcr ↦ ?_⟩
  have hmem := mem_joinLines_of_mem hline hcr
  rw [joinLines_splitOn] at hmem
  exact not_mem_normalizeNewlines _ hmem

/-! ## Settled texts -/

/-- No stage of the scrub rewrites the text. -/
structure Settled (u : Unicode) (command : Option (List Char)) (text : List Char) : Prop where
  barePids : u.producesPids command = true → u.scrubBarePids text = text
  residual : ∀ rule ∈ u.residualObservationSubs, rule.apply text = text
  headers : u.canonicalizeStructuralHeaders (text.splitOn '\n') = text.splitOn '\n'
  lines : ∀ line ∈ text.splitOn '\n', ∀ rule ∈ u.lineRules, rule.apply line = line

theorem applyRules_eq_self {rules : List Rule} {text : List Char}
    (h : ∀ rule ∈ rules, rule.apply text = text) : applyRules rules text = text := by
  induction rules with
  | nil => rfl
  | cons rule rules ih =>
    rw [List.forall_mem_cons] at h
    rw [applyRules_cons, h.1, ih h.2]

/-- **A settled observation** is scrubbed to itself. -/
theorem scrubNondeterminism_settled {command : Option (List Char)} {text : List Char}
    (h : Settled u command (u.scrubNondeterminism text command)) :
    u.scrubNondeterminism (u.scrubNondeterminism text command) command =
      u.scrubNondeterminism text command := by
  obtain ⟨hpids, hresidual, hheaders, hlines⟩ := h
  have hinline := inline_scrubbedLines (u := u) command text
  rw [scrubNondeterminism_eq command text] at hpids hresidual hheaders hlines ⊢
  have hscrub : u.scrubResidual command (joinLines (u.scrubbedLines command text)) =
      joinLines (u.scrubbedLines command text) := by
    rw [scrubResidual]
    split
    · rename_i hproduces
      rw [hpids hproduces, applyRules_eq_self hresidual]
    · exact applyRules_eq_self hresidual
  have hcr : '\r' ∉ joinLines (u.scrubbedLines command text) :=
    not_mem_joinLines (by decide) fun line hline ↦ (hinline line hline).2
  have hkept : ((joinLines (u.scrubbedLines command text)).splitOn '\n').map
      (applyRules u.lineRules) = (joinLines (u.scrubbedLines command text)).splitOn '\n' := by
    refine (List.map_congr_left fun line hline ↦ ?_).trans (List.map_id _)
    exact applyRules_eq_self (hlines line hline)
  rw [scrubNondeterminism, hscrub, normalizeNewlines_of_not_mem hcr, hheaders, normalizeLines, hkept]
  by_cases hnil : u.scrubbedLines command text = []
  · rw [hnil, joinLines_nil, List.splitOn_nil, List.filter_singleton]
    cases u.isDropped [] <;> rfl
  · -- a line the first pass kept is not dropped by the second
    rw [splitOn_joinLines hinline hnil, List.filter_eq_self.mpr]
    exact fun line hline ↦ (List.mem_filter.mp hline).2

/-! ## Two hashes -/

/-- The lines two texts are compared by. -/
def auditedLines (u : Unicode) (text : List Char) : List Line := (text.splitOn '\n').map u.rstrip

/-- Scrubbing an observation again leaves its lines, up to their order and their trailing white
space. -/
def SameLines (u : Unicode) (command : Option (List Char)) (observation : List Char) : Prop :=
  (u.auditedLines (u.scrubNondeterminism observation command)).Perm (u.auditedLines observation)

instance (u : Unicode) (command : Option (List Char)) (observation : List Char) :
    Decidable (u.SameLines command observation) :=
  inferInstanceAs (Decidable (List.Perm _ _))

theorem driftAuditCanonical_eq (command : Option (List Char)) (text : List Char) :
    u.driftAuditCanonical text command = joinLines
      ((u.auditedLines (u.scrubNondeterminism text command)).insertionSort (· ≤ ·)) := rfl

theorem driftAuditCanonical_eq_iff {command : Option (List Char)} {text text' : List Char} :
    u.driftAuditCanonical text command = u.driftAuditCanonical text' command ↔
      (u.auditedLines (u.scrubNondeterminism text command)).Perm
        (u.auditedLines (u.scrubNondeterminism text' command)) := by
  have hsplit (text : List Char) :
      (joinLines ((u.auditedLines text).insertionSort (· ≤ ·))).splitOn '\n' =
        (u.auditedLines text).insertionSort (· ≤ ·) := by
    refine List.splitOn_intercalate '\n' (fun line hline ↦ ?_) fun hnil ↦ ?_
    · obtain ⟨raw, hraw, rfl⟩ := List.mem_map.mp ((List.mem_insertionSort _).mp hline)
      exact fun hc ↦ not_mem_of_mem_splitOn hraw (rstrip_subset raw hc)
    · have hlength := congrArg List.length hnil
      rw [List.length_insertionSort, auditedLines, List.length_map, List.length_nil] at hlength
      exact List.splitOn_ne_nil '\n' text (List.length_eq_zero_iff.mp hlength)
  rw [← insertionSort_eq_iff, driftAuditCanonical_eq, driftAuditCanonical_eq]
  constructor
  · intro h
    have hlines := congrArg (List.splitOn '\n') h
    rwa [hsplit, hsplit] at hlines
  · exact congrArg joinLines

/-- The observation the agent sees of a text. -/
def observation (u : Unicode) (command text : String) : List Char :=
  u.scrubNondeterminism text.toList (some command.toList)

theorem Settled.sameLines {command text : String}
    (h : u.Settled (some command.toList) (u.observation command text)) :
    u.SameLines (some command.toList) (u.observation command text) := by
  rw [SameLines, observation, scrubNondeterminism_settled h]

theorem driftAuditString_scrub (command text : String) :
    u.driftAuditString (some command) text =
        u.driftAuditString (some command) (u.scrubString (some command) text) ↔
      u.SameLines (some command.toList) (u.observation command text) := by
  rw [driftAuditString, driftAuditString, String.ofList_inj, scrubString, String.toList_ofList,
    Option.map_some, driftAuditCanonical_eq_iff]
  exact ⟨List.Perm.symm, List.Perm.symm⟩

theorem driftAudited_scrub (command : String) (result : StepResult) :
    u.driftAudited (some command) result =
        u.driftAudited (some command) (u.scrubStepResult (some command) result) ↔
      u.driftAuditString (some command) result.rawEnvOutput.stdout =
          u.driftAuditString (some command)
            (u.scrubString (some command) result.rawEnvOutput.stdout) ∧
        u.driftAuditString (some command) result.rawEnvOutput.stderr =
          u.driftAuditString (some command)
            (u.scrubString (some command) result.rawEnvOutput.stderr) := by
  rw [driftAudited, driftAudited, scrubStepResult, scrubRawEnvOutput, StepResult.mk.injEq,
    RawEnvOutput.mk.injEq]
  simp only [true_and, and_true]

/-- A test run, as the environment reports it. -/
def pytestResult : StepResult := .ofRun { exitCode := some 0, stdout := "1 passed in 3.21s\n" }

/-- A response header with a request id. -/
def curlResult : StepResult := .ofRun { stdout := "X-Request-Id: 123456789012" }

end Unicode

end HarnessTraining
