import HarnessTraining.Trainer.Parameter

/-!
# What `validate_candidate` lets through

* `changedPaths_eq` — the lines the program sees are the quoted names, one for each changed path
  which is not the old path of a rename.
* `validateTrees_ok_iff` — acceptance, as a statement about the two trees.
* `captureCandidate_error_iff` — a capture fails exactly when nothing changed.
* `patchSurface_airtight_iff` — acceptance confines the change to the patch surface exactly when
  nothing outside the surface is hidden from the listing, or a visible check fails anyway.
* `patchSurface_leak` — a file outside the surface, renamed onto an allowed path, is hidden.
-/

set_option autoImplicit false

namespace HarnessTraining

/-! ## The listing, read back -/

section Listing

variable {git : RenameDetection} {base tree : Tree} {path : Bytes}

theorem isLineBoundary_newline : isLineBoundary newline = true := by decide

/-- Quoting leaves no line boundary. -/
theorem not_isLineBoundary_of_mem_quoteByte {source byte : UInt8} (h : byte ∈ quoteByte source) :
    isLineBoundary byte = false := by
  have hall : ∀ n < 256, (quoteByte (UInt8.ofNat n)).all (fun b ↦ !isLineBoundary b) = true := by
    decide +kernel
  have hsource := hall source.toNat source.toNat_lt
  rw [UInt8.ofNat_toNat, List.all_eq_true] at hsource
  exact Bool.not_eq_true' _ ▸ hsource byte h

theorem not_isLineBoundary_of_not_mustQuote {byte : UInt8} (h : mustQuote byte = false) :
    isLineBoundary byte = false := by
  have hall : ∀ n < 256, mustQuote (UInt8.ofNat n) = false →
      isLineBoundary (UInt8.ofNat n) = false := by
    decide +kernel
  have hbyte := hall byte.toNat byte.toNat_lt
  rw [UInt8.ofNat_toNat] at hbyte
  exact hbyte h

theorem not_isLineBoundary_of_mem_quotePath {byte : UInt8} (h : byte ∈ quotePath path) :
    isLineBoundary byte = false := by
  rw [quotePath] at h
  split at h
  · rcases List.mem_append.mp h with h | h
    · rcases List.mem_cons.mp h with rfl | h
      · decide
      · obtain ⟨source, -, h⟩ := List.mem_flatMap.mp h
        exact not_isLineBoundary_of_mem_quoteByte h
    · obtain rfl := List.mem_singleton.mp h
      decide
  · rename_i hplain
    rw [Bool.not_eq_true, List.any_eq_false] at hplain
    exact not_isLineBoundary_of_not_mustQuote (Bool.eq_false_iff.mpr (hplain byte h))

theorem quotePath_ne_nil (h : path ≠ []) : quotePath path ≠ [] := by
  rw [quotePath]
  split
  · simp
  · exact h

/-- A path is either written as it is, or its line ends in a double quote. -/
theorem quotePath_eq_or (path : Bytes) :
    quotePath path = path ∨ (quotePath path).getLast? = some doubleQuote := by
  rw [quotePath]
  split
  · exact Or.inr List.getLast?_concat
  · exact Or.inl rfl

/-- A line without boundaries is read into the current line. -/
theorem splitlines_append {line : Bytes} (hline : ∀ byte ∈ line, isLineBoundary byte = false)
    (rest current : Bytes) :
    splitlines (line ++ rest) current = splitlines rest (current ++ line) := by
  induction line generalizing current with
  | nil => simp
  | cons byte line ih =>
    have hbyte := hline byte (List.mem_cons_self ..)
    have hstep : splitlines (byte :: (line ++ rest)) current =
        splitlines (line ++ rest) (current ++ [byte]) := by
      rw [splitlines]
      · simp [hbyte]
      · rintro tail rfl -
        exact absurd hbyte (by decide)
    rw [List.cons_append, hstep, ih fun b hb ↦ hline b (List.mem_cons_of_mem _ hb)]
    simp

theorem splitlines_newline (rest current : Bytes) :
    splitlines (newline :: rest) current = current :: splitlines rest [] := by
  rw [splitlines]
  · simp [isLineBoundary_newline]
  · rintro tail h -
    exact absurd h (by decide)

/-- Lines without boundaries, each ended by a newline but the last, split back into themselves. -/
theorem splitlines_lines {lines : List Bytes} {last : Bytes}
    (hlines : ∀ line ∈ lines, ∀ byte ∈ line, isLineBoundary byte = false)
    (hlast : ∀ byte ∈ last, isLineBoundary byte = false) (hne : last ≠ []) :
    splitlines ((lines.flatMap fun line ↦ line ++ [newline]) ++ last) [] = lines ++ [last] := by
  induction lines with
  | nil =>
    have hread := splitlines_append hlast [] []
    simp only [List.append_nil, List.nil_append] at hread
    rw [List.flatMap_nil, List.nil_append, List.nil_append, hread]
    cases last with
    | nil => exact absurd rfl hne
    | cons byte last => rfl
  | cons line lines ih =>
    rw [List.flatMap_cons, List.append_assoc, List.append_assoc,
      splitlines_append (hlines line (List.mem_cons_self ..)), List.singleton_append,
      splitlines_newline, ih fun l hl ↦ hlines l (List.mem_cons_of_mem _ hl)]
    rfl

/-- **The listing is read back** as one line for each listed path. -/
theorem changedPaths_eq : changedPaths git base tree = (listedPaths git base tree).map quotePath := by
  have hboundary : ∀ line ∈ (listedPaths git base tree).map quotePath, ∀ byte ∈ line,
      isLineBoundary byte = false := by
    simp only [List.forall_mem_map]
    exact fun path _ byte hbyte ↦ not_isLineBoundary_of_mem_quotePath hbyte
  have hne : ∀ line ∈ (listedPaths git base tree).map quotePath, line ≠ [] := by
    simp only [List.forall_mem_map]
    exact fun path hpath ↦
      quotePath_ne_nil (Tree.ne_nil_of_mem_changed (List.mem_of_mem_filter hpath))
  have hstdout : ((listedPaths git base tree).flatMap fun path ↦ quotePath path ++ [newline]) =
      ((listedPaths git base tree).map quotePath).flatMap fun line ↦ line ++ [newline] := by
    rw [List.flatMap_map]
  rw [changedPaths, nameOnlyOutput, hstdout]
  generalize (listedPaths git base tree).map quotePath = lines at hboundary hne
  rcases lines.eq_nil_or_concat' with rfl | ⟨init, last, rfl⟩
  · rfl
  · have hlast : last ∈ init ++ [last] := by simp
    have hstrip : ((init ++ [last]).flatMap fun line ↦ line ++ [newline]) =
        ((init.flatMap fun line ↦ line ++ [newline]) ++ last) ++ [newline] := by simp
    simp only [hstrip, List.getLast?_concat, if_true, List.dropLast_concat]
    rw [splitlines_lines (fun l hl ↦ hboundary l (List.mem_append_left _ hl))
      (hboundary last hlast) (hne last hlast), List.filter_eq_self]
    exact fun line hline ↦ decide_eq_true (hne line hline)

theorem mem_changedPaths {line : Bytes} :
    line ∈ changedPaths git base tree ↔ ∃ path, base.Differs tree path ∧
      path ∉ git.sources base tree ∧ quotePath path = line := by
  simp [changedPaths_eq, listedPaths, Tree.mem_changed, and_assoc]

/-- The listing is empty exactly when nothing changed: an old path is renamed to a listed one. -/
theorem nameOnlyOutput_eq_nil_iff :
    nameOnlyOutput git base tree = [] ↔ ∀ path, ¬ base.Differs tree path := by
  have hempty : nameOnlyOutput git base tree = [] ↔ listedPaths git base tree = [] := by
    constructor
    · intro h
      have hlines : changedPaths git base tree = [] := by rw [changedPaths, h]; rfl
      rwa [changedPaths_eq, List.map_eq_nil_iff] at hlines
    · intro h
      rw [nameOnlyOutput, h]
      rfl
  rw [hempty, listedPaths, List.filter_eq_nil_iff]
  constructor
  · intro hall path hdiff
    have hsource := hall path (Tree.mem_changed.mpr hdiff)
    rw [decide_eq_true_eq, not_not] at hsource
    obtain ⟨⟨old, new⟩, hpair, rfl⟩ := List.mem_map.mp hsource
    obtain ⟨habsent, hadded⟩ := git.target_added hpair
    have hnew := hall new (Tree.mem_changed.mpr (by rw [Tree.Differs, habsent]; exact hadded.symm))
    rw [decide_eq_true_eq, not_not] at hnew
    obtain ⟨⟨old', new'⟩, hpair', rfl⟩ := List.mem_map.mp hnew
    exact (git.source_deleted hpair').1 habsent
  · intro hnone path hpath
    exact absurd (Tree.mem_changed.mp hpath) (hnone path)

end Listing

/-! ## Capture -/

section Capture

variable {git : RenameDetection} {repo : Repo} {baseCommit commit : Sha} {base : Commit}
  {worktree : Tree}

/-- A capture from a known base fails exactly when the proposer changed nothing. -/
theorem captureCandidate_error_iff (hbase : repo.commit? baseCommit = some base) :
    (∃ e, captureCandidate git repo baseCommit worktree commit = .error e) ↔
      ∀ path, ¬ base.tree.Differs worktree path := by
  rw [← @nameOnlyOutput_eq_nil_iff git, captureCandidate]
  split
  · rename_i h
    rw [hbase] at h
    cases h
  · rename_i base' h
    obtain rfl : base = base' := Option.some_inj.mp (hbase.symm.trans h)
    split
    · rename_i hnil
      exact iff_of_true ⟨_, rfl⟩ hnil
    · rename_i hnil
      refine iff_of_false ?_ hnil
      rintro ⟨e, he⟩
      cases he

/-- A capture adds a commit to the repository, and names it a child of the base. -/
theorem captureCandidate_ok {repo' : Repo} {candidate : Candidate}
    (h : captureCandidate git repo baseCommit worktree commit = .ok (repo', candidate)) :
    candidate = ⟨commit, baseCommit⟩ ∧
      ∃ hparent, repo' = repo.addChild baseCommit hparent commit worktree := by
  rw [captureCandidate] at h
  split at h
  · cases h
  · split at h
    · cases h
    · cases h
      exact ⟨rfl, _, rfl⟩

end Capture

/-! ## Validation -/

namespace TrainingTargetConfig

/-- The path is one of `patch_paths`. -/
def Allows (config : TrainingTargetConfig) (path : Bytes) : Prop :=
  path ∈ config.patchPaths.map encode

instance (config : TrainingTargetConfig) (path : Bytes) : Decidable (config.Allows path) :=
  inferInstanceAs (Decidable (_ ∈ _))

/-- The surface is a Python file, so no quoted path is ever taken for it. -/
theorem quotePath_eq_surface {config : TrainingTargetConfig} {path : Bytes}
    (h : quotePath path = encode config.surface) : path = encode config.surface := by
  rcases quotePath_eq_or path with hplain | hquoted
  · rw [← hplain, h]
  · have hlast : (encode config.surface).getLast? = some 121 := by
      rw [surface, encode_append, show encode ".py" = [46, 112, 121] by decide]
      simp
    rw [h, hlast] at hquoted
    exact absurd hquoted (by decide)

end TrainingTargetConfig

/-- A change the listing shows under a name outside `patch_paths`. -/
def Exposed (git : RenameDetection) (config : TrainingTargetConfig) (base tree : Tree)
    (path : Bytes) : Prop :=
  base.Differs tree path ∧ path ∉ git.sources base tree ∧ ¬ config.Allows (quotePath path)

/-- A change outside `patch_paths` that the listing leaves out, as the old path of a rename, or
shows under a quoted name which `patch_paths` contains. -/
def Hidden (git : RenameDetection) (config : TrainingTargetConfig) (base tree : Tree)
    (path : Bytes) : Prop :=
  base.Differs tree path ∧ ¬ config.Allows path ∧
    (path ∈ git.sources base tree ∨ config.Allows (quotePath path))

/-- The surface changed, is not the old path of a rename, and is written without quotes. -/
def SurfaceShown (git : RenameDetection) (config : TrainingTargetConfig) (base tree : Tree) : Prop :=
  base.Differs tree (encode config.surface) ∧ encode config.surface ∉ git.sources base tree ∧
    quotePath (encode config.surface) = encode config.surface

section Validate

variable {git : RenameDetection} {config : TrainingTargetConfig} {base tree : Tree}

theorem surface_mem_changedPaths :
    encode config.surface ∈ changedPaths git base tree ↔ SurfaceShown git config base tree := by
  rw [mem_changedPaths]
  constructor
  · rintro ⟨path, hdiff, hsource, hquote⟩
    obtain rfl := config.quotePath_eq_surface hquote
    exact ⟨hdiff, hsource, hquote⟩
  · rintro ⟨hdiff, hsource, hquote⟩
    exact ⟨_, hdiff, hsource, hquote⟩

/-- Acceptance, as a statement about the two trees. -/
theorem validateTrees_ok_iff : validateTrees git config base tree = .ok () ↔
    (∀ path, ¬ Exposed git config base tree path) ∧ SurfaceShown git config base tree := by
  have hdisallowed : (changedPaths git base tree).filter
      (fun path ↦ path ∉ config.patchPaths.map encode) = [] ↔
        ∀ path, ¬ Exposed git config base tree path := by
    rw [List.filter_eq_nil_iff]
    constructor
    · rintro hall path ⟨hdiff, hsource, hallows⟩
      exact hall _ (mem_changedPaths.mpr ⟨path, hdiff, hsource, rfl⟩) (decide_eq_true hallows)
    · intro hnone line hline hallows
      obtain ⟨path, hdiff, hsource, rfl⟩ := mem_changedPaths.mp hline
      exact hnone path ⟨hdiff, hsource, of_decide_eq_true hallows⟩
  rw [← hdisallowed, ← surface_mem_changedPaths, validateTrees]
  split
  · rename_i h
    exact iff_of_false (by simp [throw, throwThe, MonadExceptOf.throw]) fun h' ↦ h h'.1
  · rename_i h
    rw [not_not] at h
    split
    · rename_i h'
      exact iff_of_false (by simp [throw, throwThe, MonadExceptOf.throw]) fun h ↦ h' h.2
    · rename_i h'
      exact iff_of_true rfl ⟨h, not_not.mp h'⟩

/-- A changed path outside `patch_paths` is hidden or exposed. -/
theorem exposed_or_hidden {path : Bytes} (hdiff : base.Differs tree path)
    (hallows : ¬ config.Allows path) :
    Exposed git config base tree path ∨ Hidden git config base tree path := by
  by_cases hshown : path ∉ git.sources base tree ∧ ¬ config.Allows (quotePath path)
  · exact Or.inl ⟨hdiff, hshown⟩
  · exact Or.inr ⟨hdiff, hallows, by tauto⟩

/-- **When the patch surface is airtight.**  Acceptance confines every change to `patch_paths`, the
surface included, exactly when no change outside `patch_paths` is hidden from the listing, or one of
the visible checks fails: the parent, a change shown outside `patch_paths`, the surface. -/
theorem patchSurface_airtight_iff {repo : Repo} {candidate : Candidate} {baseline commit : Commit}
    (hcommit : repo.commit? candidate.commit = some commit)
    (hbase : repo.commit? candidate.baseCommit = some baseline) :
    (validateCandidate git repo candidate config = .ok () →
        (∀ path, baseline.tree.Differs commit.tree path → config.Allows path) ∧
          baseline.tree.Differs commit.tree (encode config.surface)) ↔
      (∀ path, ¬ Hidden git config baseline.tree commit.tree path) ∨
        commit.parents ≠ [candidate.baseCommit] ∨
        (∃ path, Exposed git config baseline.tree commit.tree path) ∨
        ¬ SurfaceShown git config baseline.tree commit.tree := by
  have haccept : validateCandidate git repo candidate config = .ok () ↔
      commit.parents = [candidate.baseCommit] ∧
        (∀ path, ¬ Exposed git config baseline.tree commit.tree path) ∧
        SurfaceShown git config baseline.tree commit.tree := by
    rw [← validateTrees_ok_iff]
    simp only [validateCandidate, hcommit, hbase]
    split
    · rename_i h
      exact iff_of_false (by simp [throw, throwThe, MonadExceptOf.throw]) fun h' ↦ h h'.1
    · rename_i h
      rw [not_not] at h
      simp [h]
  rw [haccept]
  constructor
  · intro hairtight
    by_contra hnot
    simp only [not_or, not_not, not_exists] at hnot
    obtain ⟨hhidden, hparent, hexposed, hsurface⟩ := hnot
    refine hhidden fun path hpath ↦ hpath.2.1 ?_
    exact (hairtight ⟨hparent, hexposed, hsurface⟩).1 path hpath.1
  · rintro (hhidden | hparent | ⟨path, hexposed⟩ | hsurface) ⟨hparent', hexposed', hsurface'⟩
    · refine ⟨fun path hdiff ↦ ?_, hsurface'.1⟩
      by_contra hallows
      exact (exposed_or_hidden hdiff hallows).elim (hexposed' path) (hhidden path)
    · exact absurd hparent' hparent
    · exact absurd hexposed (hexposed' path)
    · exact absurd hsurface' hsurface

end Validate

/-! ## A leak -/

/-- Rename detection for small concrete cases: a deleted file and an added one with its contents. -/
def exactRenames : RenameDetection where
  pairs base tree := (base.entries.keys.filter fun old ↦ tree.lookup old = none).filterMap fun old ↦
    ((tree.entries.keys.filter fun new ↦ base.lookup new = none).find? fun new ↦
      tree.lookup new = base.lookup old).map fun new ↦ (old, new)
  source_deleted := by
    intro base tree old new h
    obtain ⟨old', hold, h⟩ := List.mem_filterMap.mp h
    obtain ⟨new', -, h⟩ := Option.map_eq_some_iff.mp h
    cases h
    obtain ⟨hkeys, hdeleted⟩ := List.mem_filter.mp hold
    exact ⟨fun h ↦ AList.lookup_eq_none.mp h (AList.mem_keys.mp hkeys), of_decide_eq_true hdeleted⟩
  target_added := by
    intro base tree old new h
    obtain ⟨old', -, h⟩ := List.mem_filterMap.mp h
    obtain ⟨new', hfind, h⟩ := Option.map_eq_some_iff.mp h
    cases h
    obtain ⟨hkeys, hadded⟩ := List.mem_filter.mp (List.mem_of_find?_eq_some hfind)
    exact ⟨of_decide_eq_true hadded, fun h ↦ AList.lookup_eq_none.mp h (AList.mem_keys.mp hkeys)⟩

/-- A target with one extra patch path. -/
def leakConfig : TrainingTargetConfig where
  module := "src.policy.core"
  extraPatchPaths := ["tests/policy/test_core_impl.py"]

/-- The base has no contract test. -/
def leakBase : Tree where
  entries := [⟨encode "src/policy/core.py", ⟨.regular, "core"⟩⟩,
    ⟨encode "src/measurement.py", ⟨.regular, "measurement"⟩⟩].toAList

/-- The candidate edits the surface and moves a frozen file onto the path of the contract test. -/
def leakCandidate : Tree where
  entries := [⟨encode "src/policy/core.py", ⟨.regular, "core-edited"⟩⟩,
    ⟨encode "tests/policy/test_core_impl.py", ⟨.regular, "measurement"⟩⟩].toAList

def leakRepo : Repo where
  commit? sha :=
    if sha = "base" then some ⟨[], leakBase⟩
    else if sha = "candidate" then some ⟨["base"], leakCandidate⟩
    else none
  rank sha := if sha = "candidate" then 1 else 0
  parent_known := by
    intro sha commit parent h hparent
    split at h
    · cases h
      cases hparent
    · split at h
      · cases h
        obtain rfl := List.mem_singleton.mp hparent
        rfl
      · cases h
  parent_older := by
    intro sha commit parent h hparent
    split at h
    · cases h
      cases hparent
    · split at h
      · rename_i hsha
        cases h
        obtain rfl := List.mem_singleton.mp hparent
        rw [hsha]
        decide
      · cases h

theorem validateCandidate_leak :
    validateCandidate exactRenames leakRepo ⟨"candidate", "base"⟩ leakConfig = .ok () := by
  have hok : validateTrees exactRenames leakConfig leakBase leakCandidate = .ok () := by
    decide +kernel
  exact hok

/-- **The patch surface leaks.**  The candidate is accepted although it deletes a file outside it. -/
theorem patchSurface_leak :
    validateCandidate exactRenames leakRepo ⟨"candidate", "base"⟩ leakConfig = .ok () ∧
      leakBase.Differs leakCandidate (encode "src/measurement.py") ∧
      ¬ leakConfig.Allows (encode "src/measurement.py") :=
  ⟨validateCandidate_leak, by decide, by decide⟩

/-- The leak is hidden, and every visible check passes. -/
theorem patchSurface_airtight_iff_leak :
    ¬ ((∀ path, ¬ Hidden exactRenames leakConfig leakBase leakCandidate path) ∨
      ["base"] ≠ ["base"] ∨ (∃ path, Exposed exactRenames leakConfig leakBase leakCandidate path) ∨
      ¬ SurfaceShown exactRenames leakConfig leakBase leakCandidate) := by
  intro h
  have hcommit : leakRepo.commit? (Candidate.mk "candidate" "base").commit =
      some ⟨["base"], leakCandidate⟩ := rfl
  have hbase : leakRepo.commit? (Candidate.mk "candidate" "base").baseCommit =
      some ⟨[], leakBase⟩ := rfl
  have hairtight := (patchSurface_airtight_iff hcommit hbase).mpr h validateCandidate_leak
  exact absurd (hairtight.1 (encode "src/measurement.py") (by decide)) (by decide)

end HarnessTraining
