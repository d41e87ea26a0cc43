import HarnessTraining.Rollout.Records
import Mathlib.Data.List.Sort

/-!
# The patch surface

`capture_candidate` and `validate_candidate` of `src/trainer/parameter.py`, with the part of git they
stand on: trees, commits, and the text of `git diff --name-only`.

A git path is a string of bytes.  What the program compares with `patch_paths` is not a path but a
line of that text, in which git writes an unusual path between quotes and leaves out the old path of
a rename.  Rename detection is git's own heuristic, so it is a parameter (`RenameDetection`): all
that is assumed is that it pairs a deleted path with an added one.  `PatchSurface.lean` says what the
validation lets through.
-/

set_option autoImplicit false

namespace HarnessTraining

/-! ## Trees and commits -/

abbrev Bytes := List UInt8

/-- The bytes of a Python `str` under the file system encoding. -/
def encode (s : String) : Bytes := s.toByteArray.data.toList

theorem encode_append (s t : String) : encode (s ++ t) = encode s ++ encode t := by
  simp [encode, String.toByteArray_append]

inductive FileMode where
  | regular | executable | symlink | gitlink
  deriving DecidableEq, Repr

/-- What a tree stores under a path. -/
structure TreeEntry where
  mode : FileMode
  blob : Sha
  deriving DecidableEq, Repr

/-- A tree, flattened to full paths; no path is empty. -/
structure Tree where
  entries : AList fun _ : Bytes ↦ TreeEntry
  path_ne : ∀ path ∈ entries.keys, path ≠ [] := by decide

namespace Tree

def lookup (tree : Tree) (path : Bytes) : Option TreeEntry := tree.entries.lookup path

/-- The blob or the mode under the path differs, a missing entry included. -/
def Differs (base tree : Tree) (path : Bytes) : Prop := base.lookup path ≠ tree.lookup path

instance (base tree : Tree) (path : Bytes) : Decidable (base.Differs tree path) :=
  inferInstanceAs (Decidable (_ ≠ _))

/-- All paths under which the trees differ, in git's order. -/
def changed (base tree : Tree) : List Bytes :=
  ((base.entries.keys ++ tree.entries.keys).dedup.filter fun path ↦
    base.Differs tree path).insertionSort (· ≤ ·)

variable {base tree : Tree} {path : Bytes}

theorem mem_keys_of_lookup (h : tree.lookup path ≠ none) : path ∈ tree.entries.keys := by
  rw [lookup, Ne, AList.lookup_eq_none, not_not] at h
  exact AList.mem_keys.mpr h

theorem mem_changed : path ∈ changed base tree ↔ base.Differs tree path := by
  simp only [changed, List.mem_insertionSort, List.mem_filter, List.mem_dedup, List.mem_append,
    decide_eq_true_eq, and_iff_right_iff_imp]
  intro hdiff
  by_contra hmem
  rw [not_or] at hmem
  refine hdiff ?_
  rw [not_not.mp (mt mem_keys_of_lookup hmem.1), not_not.mp (mt mem_keys_of_lookup hmem.2)]

theorem ne_nil_of_mem_changed (h : path ∈ changed base tree) : path ≠ [] := by
  simp only [changed, List.mem_insertionSort, List.mem_filter, List.mem_dedup,
    List.mem_append] at h
  exact h.1.elim (base.path_ne path) (tree.path_ne path)

end Tree

structure Commit where
  parents : List Sha
  tree : Tree

/-- The commits of a repository.  Every parent of a commit is there, and older. -/
structure Repo where
  commit? : Sha → Option Commit
  rank : Sha → ℕ
  parent_known : ∀ {sha commit parent}, commit? sha = some commit → parent ∈ commit.parents →
    (commit? parent).isSome = true
  parent_older : ∀ {sha commit parent}, commit? sha = some commit → parent ∈ commit.parents →
    rank parent < rank sha

namespace Repo

def parents (repo : Repo) (sha : Sha) : List Sha :=
  match repo.commit? sha with
  | some commit => commit.parents
  | none => []

/-- Whether `ancestor` is within `fuel` steps of `sha`. -/
def reaches (repo : Repo) (ancestor : Sha) : ℕ → Sha → Bool
  | 0, sha => sha = ancestor
  | fuel + 1, sha => sha = ancestor || (repo.parents sha).any (repo.reaches ancestor fuel)

/-- Whether `ancestor` is `sha` or an ancestor of it. -/
def isAncestor (repo : Repo) (ancestor sha : Sha) : Bool := repo.reaches ancestor (repo.rank sha) sha

/-- Add a commit; one that exists has that parent and that tree already, for its name is a digest of
them. -/
def addChild (repo : Repo) (parent : Sha) (hparent : (repo.commit? parent).isSome = true)
    (sha : Sha) (tree : Tree) : Repo :=
  if hnew : repo.commit? sha = none then {
    commit? := fun sha' ↦ if sha' = sha then some ⟨[parent], tree⟩ else repo.commit? sha'
    rank := fun sha' ↦ if sha' = sha then repo.rank parent + 1 else repo.rank sha'
    parent_known := by
      intro sha' commit p hcommit hp
      by_cases hpsha : p = sha
      · simp [hpsha]
      · simp only [if_neg hpsha]
        by_cases hsha : sha' = sha
        · rw [if_pos hsha] at hcommit
          cases hcommit
          rwa [List.mem_singleton.mp hp]
        · rw [if_neg hsha] at hcommit
          exact repo.parent_known hcommit hp
    parent_older := by
      intro sha' commit p hcommit hp
      by_cases hsha : sha' = sha
      · rw [if_pos hsha] at hcommit
        cases hcommit
        obtain rfl := List.mem_singleton.mp hp
        have hne : p ≠ sha := by
          rintro rfl
          rw [hnew] at hparent
          cases hparent
        simp [hsha, hne]
      · rw [if_neg hsha] at hcommit
        have hne : p ≠ sha := by
          rintro rfl
          have hknown := repo.parent_known hcommit hp
          rw [hnew] at hknown
          cases hknown
        simpa only [if_neg hsha, if_neg hne] using repo.parent_older hcommit hp }
  else repo

end Repo

/-! ## The text of `git diff --name-only` -/

/-- Rename detection: which deleted path of the base becomes which added path of the tree. -/
structure RenameDetection where
  pairs : Tree → Tree → List (Bytes × Bytes)
  source_deleted : ∀ {base tree old new}, (old, new) ∈ pairs base tree →
    base.lookup old ≠ none ∧ tree.lookup old = none
  target_added : ∀ {base tree old new}, (old, new) ∈ pairs base tree →
    base.lookup new = none ∧ tree.lookup new ≠ none

/-- The old paths of all detected renames. -/
def RenameDetection.sources (git : RenameDetection) (base tree : Tree) : List Bytes :=
  (git.pairs base tree).map Prod.fst

/-- The paths `git diff` lists: a rename is listed under its new path only. -/
def listedPaths (git : RenameDetection) (base tree : Tree) : List Bytes :=
  (base.changed tree).filter fun path ↦ path ∉ git.sources base tree

def newline : UInt8 := 10

def doubleQuote : UInt8 := 34

def backslash : UInt8 := 92

/-- The bytes that make git quote a path, with `core.quotePath` at its default. -/
def mustQuote (byte : UInt8) : Bool :=
  byte < 0x20 || 0x7f ≤ byte || byte == doubleQuote || byte == backslash

/-- One byte of a quoted path: a letter escape where C has one, else three octal digits. -/
def quoteByte (byte : UInt8) : Bytes :=
  if mustQuote byte then
    if byte == doubleQuote || byte == backslash then [backslash, byte]
    else if 7 ≤ byte && byte ≤ 13 then backslash :: ((encode "abtnvfr")[(byte - 7).toNat]?).toList
    else [backslash, 48 + byte / 64, 48 + byte / 8 % 8, 48 + byte % 8]
  else [byte]

/-- `quote_c_style`. -/
def quotePath (path : Bytes) : Bytes :=
  if path.any mustQuote then doubleQuote :: path.flatMap quoteByte ++ [doubleQuote] else path

/-- The standard output, as GitPython returns it: without its last newline. -/
def nameOnlyOutput (git : RenameDetection) (base tree : Tree) : Bytes :=
  let stdout := (listedPaths git base tree).flatMap fun path ↦ quotePath path ++ [newline]
  if stdout.getLast? = some newline then stdout.dropLast else stdout

/-- The line boundaries of `str.splitlines` within ASCII. -/
def isLineBoundary (byte : UInt8) : Bool :=
  10 ≤ byte && byte ≤ 13 || 28 ≤ byte && byte ≤ 30

/-- `str.splitlines`, with the line read so far. -/
def splitlines : Bytes → Bytes → List Bytes
  | [], [] => []
  | [], current => [current]
  | 13 :: 10 :: rest, current => current :: splitlines rest []
  | byte :: rest, current =>
    if isLineBoundary byte then current :: splitlines rest []
    else splitlines rest (current ++ [byte])

/-- The non-empty lines of the listing. -/
def changedPaths (git : RenameDetection) (base tree : Tree) : List Bytes :=
  (splitlines (nameOnlyOutput git base tree) []).filter fun path ↦ path ≠ []

/-! ## Capture and validation -/

structure TrainingTargetConfig where
  module : String
  extraPatchPaths : List String := []

namespace TrainingTargetConfig

/-- The one file every candidate must change. -/
def surface (config : TrainingTargetConfig) : String :=
  String.ofList (config.module.toList.map fun c ↦ if c = '.' then '/' else c) ++ ".py"

def patchPaths (config : TrainingTargetConfig) : List String :=
  config.surface :: config.extraPatchPaths

end TrainingTargetConfig

inductive CandidateCause where
  | noCandidate | invalidCandidate
  deriving DecidableEq, Repr

/-- A proposed candidate patch violates the training-cycle edit contract. -/
structure CandidateValidationError where
  message : String
  cause : CandidateCause
  deriving DecidableEq, Repr

/-- What the trainer's code raises.  `foreign` is an exception of code the trainer calls: the
estimator, the measurement's preflight, a validator of the run store. -/
inductive TrainerError where
  | candidateValidation (error : CandidateValidationError)
  | gitCommandError (message : String)
  | runtimeError (message : String)
  | circuitBreakerTripped (message : String)
  | foreign (message : String)
  deriving DecidableEq, Repr

/-- Captured candidate commit plus the baseline it is compared against. -/
structure Candidate where
  commit : Sha
  baseCommit : Sha

def noSuchCommit (sha : Sha) : TrainerError := .gitCommandError s!"bad object {sha}"

/-- `capture_candidate`: the proposer's files, staged on top of the base, become a commit.  The name
of that commit is git's choice. -/
def captureCandidate (git : RenameDetection) (repo : Repo) (baseCommit : Sha) (worktree : Tree)
    (commit : Sha) : Except TrainerError (Repo × Candidate) :=
  match h : repo.commit? baseCommit with
  | none => throw (noSuchCommit baseCommit)
  | some base =>
    if nameOnlyOutput git base.tree worktree = [] then
      throw (.candidateValidation {
        message := "candidate made no tracked change"
        cause := .noCandidate })
    else return (repo.addChild baseCommit (by rw [h]; rfl) commit worktree, ⟨commit, baseCommit⟩)

/-- A line of the listing as text; the listing is ASCII. -/
def text (line : Bytes) : String := String.ofList (line.map Char.ofUInt8)

/-- The part of `validate_candidate` after the ancestry check, on the trees of the two commits. -/
def validateTrees (git : RenameDetection) (config : TrainingTargetConfig) (base tree : Tree) :
    Except TrainerError Unit :=
  let changedPaths := changedPaths git base tree
  let disallowed := changedPaths.filter fun path ↦ path ∉ config.patchPaths.map encode
  if disallowed ≠ [] then
    throw (.candidateValidation {
      message := "candidate changed files outside the allowed patch surface:\n" ++
        "\n".intercalate (disallowed.map text)
      cause := .invalidCandidate })
  else if encode config.surface ∉ changedPaths then
    throw (.candidateValidation {
      message := s!"candidate must change {config.surface}; tests-only patches are not run"
      cause := .invalidCandidate })
  else return ()

/-- `validate_candidate`. -/
def validateCandidate (git : RenameDetection) (repo : Repo) (candidate : Candidate)
    (config : TrainingTargetConfig) : Except TrainerError Unit :=
  match repo.commit? candidate.commit with
  | none => throw (noSuchCommit candidate.commit)
  | some commit =>
    if commit.parents ≠ [candidate.baseCommit] then
      throw (.candidateValidation {
        message := "candidate must be a direct child of its trainer baseline"
        cause := .invalidCandidate })
    else
      match repo.commit? candidate.baseCommit with
      | none => throw (noSuchCommit candidate.baseCommit)
      | some base => validateTrees git config base.tree commit.tree

end HarnessTraining
