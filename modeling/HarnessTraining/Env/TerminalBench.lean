import HarnessTraining.Env.Base
import HarnessTraining.Env.SweBenchVerify
import HarnessTraining.Library.Ipv4
import HarnessTraining.Replay.StepRow
import Mathlib.Data.Finset.Sort
import Mathlib.Data.String.Basic

/-!
# Terminal-Bench

`src/env/terminal_bench.py`: the verifier of a task, in a container whose commands answer what they
like, the files that a verdict leaves, also one that was read from the step cache, and the networks of
the tasks.

* `verify`, `readReward` — the live verdict.
* `writeVerifyArtifacts` — the files of a verdict that was not executed.
* `replayed_artifacts` — they are those of the live one.
* `networks_of_loadTasks` — the network of a task depends on no panel, and is its own.
-/

set_option autoImplicit false

/-- The float `1.0`. -/
def Decimal.one : Decimal := ⟨1, 0, Or.inl (by decide)⟩

namespace HarnessTraining

open Python StateExcept

/-- A file of the directory. -/
def Artifacts.file (artifacts : Artifacts) (name : String) : Option Text :=
  (artifacts.getD []).lookup name

/-- `text.strip()`. -/
def Unicode.strip (u : Unicode) (text : String) : String :=
  String.ofList ((text.toList.dropWhile u.isSpace).rdropWhile u.isSpace)

namespace TerminalBench

/-! ## The container -/

/-- `ExecResult`. -/
structure ExecResult where
  exitCode : ℤ
  stdout : String
  stderr : String

/-- An exception of the verifier. -/
inductive VerifierError where
  /-- A `RuntimeError` or a `ValueError` of the container, or of what reads the reward. -/
  | caught (text : String)
  /-- Any other of the container. -/
  | other (text : String)
  /-- Of what writes the files. -/
  | writing (error : GradeError)

/-- A `DockerShellSession`, with what it does to a world. -/
structure SolveEnv (W : Type) where
  provision : Prog W VerifierError Unit
  run (command cwd : String) (timeout : ℚ) : Prog W VerifierError ExecResult
  /-- `upload_dir`, of the tests of the task. -/
  uploadDir (targetDir : String) : Prog W VerifierError Unit

/-- `read_file`, of a path that needs no quotes. -/
def SolveEnv.readFile {W : Type} (solveEnv : SolveEnv W) (path : String) :
    Prog W VerifierError (Option String) := do
  let execResult ← solveEnv.run ("cat " ++ path) "/" 30
  return if execResult.exitCode ≠ 0 then none else some execResult.stdout

/-! ## The files -/

/-- `path.write_text(data)`, of a value that may be no text. -/
def writeData (name : String) : PyJson → GradeM Unit
  | .str text => writeText name text
  | _ => throw (.typeError "data must be str")

/-- The object of `result.json`. -/
def verifierArtifact (info : List (Text × PyJson)) (verdict : PyVerifyVerdict) : List (Text × PyJson) :=
  let artifact := PyJson.setItem (ofString "completed") verdict.completed info
  if verdict.completed.truthy then PyJson.setItem (ofString "passed") verdict.passed artifact
  else PyJson.setItem (ofString "error") verdict.error artifact

/-- The text of `result.json`. -/
def resultText (verdict : PyVerifyVerdict) : PyJson → Except GradeError Text
  | .obj info =>
    match PyJson.dump (.indented 2) (PyJson.sortKeys (.obj (verifierArtifact info verdict))) with
    | none => .error (.valueError DIGIT_LIMIT)
    | some text => .ok text
  | _ => .error (.typeError "info is no mapping")

/-- `_write_verifier_artifacts`, in the directory `terminal_bench_verifier`. -/
def writeVerifierArtifacts (testStdout info : PyJson) (verdict : PyVerifyVerdict)
    (rewardText : Option Text) : GradeM Unit := do
  modify fun artifacts ↦ some (artifacts.getD [])
  writeData "test-stdout.txt" testStdout
  match resultText verdict info with
  | .error error => throw error
  | .ok result => do
    writeText "result.json" result
    match rewardText with
    | none => return
    | some text => writeText "reward.txt" text

/-- `int(value)`; a text is left out. -/
def pyInt : PyJson → Except GradeError ℤ
  | .bool b => .ok b.toInt
  | .int z => .ok z
  | .float q =>
    .ok (if 0 ≤ q.exponent then q.mantissa * 10 ^ q.exponent.toNat
      else q.mantissa.tdiv (10 ^ (-q.exponent).toNat))
  | .const .nan => .error (.valueError "cannot convert float NaN to integer")
  | .const _ => .error (.other "cannot convert float infinity to integer")
  | _ => .error (.typeError "int() argument must be a number")

/-- `write_verify_artifacts`. -/
def writeVerifyArtifacts (result : PyStepResult) : GradeM Unit := do
  match result.verdict with
  | none => throw (.access (.attributeError "'NoneType' object has no attribute 'completed'"))
  | some verdict =>
    if verdict.completed.truthy then
      match pyInt result.reward with
      | .error error => throw error
      | .ok reward =>
        match PyJson.dump .compact (.int reward) with
        | none => throw (.valueError DIGIT_LIMIT)
        | some text =>
          writeVerifierArtifacts result.rawEnvOutput.stdout result.info verdict
            (some (text ++ ofString "\n"))
    else writeVerifierArtifacts result.rawEnvOutput.stdout result.info verdict none

/-! ## The verifier -/

/-- `VerifyOutcome`. -/
structure VerifierOutcome where
  exitCode : ℤ
  stdout : String
  stderr : String
  reward : Decimal
  taskName : String
  verdict : PyVerifyVerdict

namespace VerifierOutcome

/-- `info`. -/
def info (outcome : VerifierOutcome) : List (Text × PyJson) :=
  [(ofString "task_name", .str (ofString outcome.taskName)),
    (ofString "verifier_exit_code", .int outcome.exitCode)]

/-- The transition of a `VerifyAction`. -/
def stepResult (outcome : VerifierOutcome) : PyStepResult where
  rawEnvOutput := {
    exitCode := .int outcome.exitCode
    stdout := .str (ofString outcome.stdout)
    stderr := .str (ofString outcome.stderr) }
  reward := .float outcome.reward
  terminated := .bool true
  truncated := .bool false
  info := .obj outcome.info
  verdict := some outcome.verdict

end VerifierOutcome

/-- `VerifyVerdict(completed=True, passed=passed, error=None)`. -/
def completedVerdict (passed : Bool) : PyVerifyVerdict := ⟨.bool true, .bool passed, .null, rfl⟩

/-- `VerifyVerdict(completed=False, passed=None, error=error)`. -/
def incompleteVerdict (error : String) : PyVerifyVerdict :=
  ⟨.bool false, .null, .str (ofString error), rfl⟩

section Verify

variable {W : Type} (u : Unicode) (solveEnv : SolveEnv W)

/-- The reads of `_read_reward` that are left. -/
def readRewardIn : ℕ → Prog W VerifierError (Decimal × String)
  | 0 => throw (.caught "verifier reward output was not readable")
  | n + 1 => do
    match ← solveEnv.readFile "/logs/verifier/reward.txt" with
    | none => throw (.caught "verifier did not write /logs/verifier/reward.txt")
    | some stdout =>
      if stdout = "" then readRewardIn n
      else if u.strip stdout = "0" then return (.zero, stdout)
      else if u.strip stdout = "1" then return (.one, stdout)
      else throw (.caught "reward.txt must contain exactly '0' or '1'")

/-- `_read_reward`. -/
def readReward : Prog W VerifierError (Decimal × String) := readRewardIn u solveEnv 2

/-- `_VERIFIER_COMMAND`. -/
def VERIFIER_COMMAND : String :=
  "rm -f /logs/verifier/reward.txt /logs/verifier/test-stdout.txt && chmod +x /tests/test.sh" ++
  " && /tests/test.sh > /logs/verifier/test-stdout.txt 2>&1"

/-- `_install_tests`. -/
def installTests : Prog W VerifierError Unit := do
  let _ ← solveEnv.run "mkdir -p /tests /logs/verifier /logs/agent /logs/artifacts" "/" 30
  solveEnv.uploadDir "/tests"

/-- The reward, its text and the verdict; an error of the right kind is one. -/
def judgeReward : Prog W VerifierError (Decimal × Option String × PyVerifyVerdict) :=
  tryCatch (do
    let (reward, rewardText) ← readReward u solveEnv
    return (reward, some rewardText, completedVerdict (1 ≤ (Number.float reward).toRat)))
  fun
  | .caught text => return (.zero, none, incompleteVerdict text)
  | error => throw error

/-- A program of the container, beside the files. -/
def onWorld {α : Type} (m : Prog W VerifierError α) : Prog (W × Artifacts) VerifierError α :=
  fun s ↦ ((exec m s.1).1, (exec m s.1).2, s.2)

/-- A program of the files, beside the container. -/
def onArtifacts {α : Type} (m : GradeM α) : Prog (W × Artifacts) VerifierError α :=
  fun s ↦ ((exec m s.2).1.mapError .writing, s.1, (exec m s.2).2)

/-- `verify`. -/
def verify (taskName : String) (verifyTimeoutSec : ℚ) : Prog (W × Artifacts) VerifierError VerifierOutcome := do
  onWorld solveEnv.provision
  onWorld (installTests solveEnv)
  let execResult ← onWorld (solveEnv.run VERIFIER_COMMAND "/app" verifyTimeoutSec)
  let testStdout ← onWorld (solveEnv.readFile "/logs/verifier/test-stdout.txt")
  let (reward, rewardText, verdict) ← onWorld (judgeReward u solveEnv)
  let outcome : VerifierOutcome := {
    exitCode := execResult.exitCode
    stdout := testStdout.getD ""
    stderr := execResult.stderr
    reward := reward
    taskName := taskName
    verdict := verdict }
  onArtifacts (writeVerifierArtifacts (.str (ofString outcome.stdout)) (.obj outcome.info) verdict
    (rewardText.map ofString))
  return outcome

end Verify

/-! ## What is written -/

theorem file_made (artifacts : Artifacts) (name : String) :
    Artifacts.file (some (artifacts.getD [])) name = artifacts.file name := rfl

/-- The files after a write. -/
theorem file_written (artifacts : Artifacts) (name name' : String) (text : Text) :
    Artifacts.file (some ((name, text) :: (artifacts.getD []).filter (·.1 ≠ name))) name' =
      if name' = name then some text else artifacts.file name' := by
  rw [Artifacts.file, Option.getD_some, List.lookup_cons]
  by_cases heq : name' = name
  · rw [if_pos heq, heq, beq_self_eq_true]
  · rw [if_neg heq, beq_eq_false_iff_ne.mpr heq]
    dsimp only
    rw [Artifacts.file]
    induction artifacts.getD [] with
    | nil => rfl
    | cons file files ih =>
      rw [List.filter_cons]
      by_cases hfile : file.1 = name
      · rw [if_neg (by simpa using hfile), ih, List.lookup_cons, hfile, beq_eq_false_iff_ne.mpr heq]
      · rw [if_pos (by simpa using hfile), List.lookup_cons, List.lookup_cons, ih]

/-- The files that a verdict leaves. -/
structure Leaves (before left : Artifacts) (testStdout result : Text) (rewardText : Option Text) :
    Prop where
  testStdout : left.file "test-stdout.txt" = some testStdout
  result : left.file "result.json" = some result
  reward : left.file "reward.txt" = rewardText.or (before.file "reward.txt")
  others : ∀ name, name ∉ ["test-stdout.txt", "result.json", "reward.txt"] →
    left.file name = before.file name

theorem encodable_resultText {verdict : PyVerifyVerdict} {info : PyJson} {result : Text}
    (h : resultText verdict info = .ok result) : encodable result = true := by
  unfold resultText at h
  split at h
  · split at h
    · cases h
    · next text htext =>
      cases h
      exact encodable_dump htext
  · cases h

theorem not_writable_of_resultText {verdict : PyVerifyVerdict} {info : List (Text × PyJson)}
    {error : GradeError} (h : resultText verdict (.obj info) = .error error) :
    ¬PyJson.Writable (.obj (verifierArtifact info verdict)) := by
  rw [resultText] at h
  split at h
  · next hlong => exact mt PyJson.writable_sortKeys.mpr (PyJson.dump_eq_none.mp hlong)
  · cases h

theorem wp_writeVerifierArtifacts {stdout : String} {info : PyJson} {verdict : PyVerifyVerdict}
    {rewardText : Option String} {Q : Unit → Artifacts → Prop} {E : GradeError → Artifacts → Prop}
    {before : Artifacts}
    (hleft : ∀ result left, resultText verdict info = .ok result →
      Leaves before left (ofString stdout) result (rewardText.map ofString) → Q () left)
    (herror : ∀ error left, resultText verdict info = .error error → E error left) :
    wp (writeVerifierArtifacts (.str (ofString stdout)) info verdict (rewardText.map ofString)) Q E
      before := by
  unfold writeVerifierArtifacts
  rw [wp_bind, wp_modify, wp_bind, writeData, wp_writeText (encodable_ofString _)]
  cases hresult : resultText verdict info with
  | error error => exact herror error _ hresult
  | ok result =>
    dsimp only
    rw [wp_bind, wp_writeText (encodable_resultText hresult)]
    cases rewardText with
    | none =>
      refine hleft result _ hresult ⟨?_, ?_, ?_, fun name hname ↦ ?_⟩
      · rw [file_written, if_neg (by decide), file_written, if_pos rfl]
      · rw [file_written, if_pos rfl]
      · rw [file_written, if_neg (by decide), file_written, if_neg (by decide), file_made]
        rfl
      · simp only [List.mem_cons, List.not_mem_nil, or_false, not_or] at hname
        rw [file_written, file_written, file_made, if_neg hname.2.1, if_neg hname.1]
    | some rewardText =>
      dsimp only [Option.map_some]
      rw [wp_writeText (encodable_ofString _)]
      refine hleft result _ hresult ⟨?_, ?_, ?_, fun name hname ↦ ?_⟩
      · rw [file_written, if_neg (by decide), file_written, if_neg (by decide), file_written, if_pos rfl]
      · rw [file_written, if_neg (by decide), file_written, if_pos rfl]
      · rw [file_written, if_pos rfl]
        rfl
      · simp only [List.mem_cons, List.not_mem_nil, or_false, not_or] at hname
        rw [file_written, file_written, file_written, file_made, if_neg hname.2.2, if_neg hname.2.1,
          if_neg hname.1]

/-! ## The live verdict -/

section Live

variable {W : Type} {u : Unicode} {solveEnv : SolveEnv W}

theorem wp_onWorld {α : Type} {m : Prog W VerifierError α} {Q : α → W × Artifacts → Prop}
    {E : VerifierError → W × Artifacts → Prop} {s : W × Artifacts} :
    wp (onWorld m) Q E s ↔ wp m (fun a w ↦ Q a (w, s.2)) (fun e w ↦ E e (w, s.2)) s.1 := by
  have hexec : exec (onWorld m) s = ((exec m s.1).1, (exec m s.1).2, s.2) := rfl
  rw [wp, wp, hexec]
  rcases exec m s.1 with ⟨_ | _, w⟩ <;> rfl

theorem wp_onArtifacts {α : Type} {m : GradeM α} {Q : α → W × Artifacts → Prop}
    {E : VerifierError → W × Artifacts → Prop} {s : W × Artifacts} :
    wp (onArtifacts m) Q E s ↔
      wp m (fun a left ↦ Q a (s.1, left)) (fun e left ↦ E (.writing e) (s.1, left)) s.2 := by
  have hexec : exec (onArtifacts m) s = ((exec m s.2).1.mapError .writing, s.1, (exec m s.2).2) := rfl
  rw [wp, wp, hexec]
  rcases exec m s.2 with ⟨_ | _, left⟩ <;> rfl

/-- A reward that was read, of a text. -/
inductive Reward (u : Unicode) : Decimal → String → Prop where
  | zero {text : String} (htext : u.strip text = "0") : Reward u .zero text
  | one {text : String} (htext : u.strip text = "1") : Reward u .one text

/-- A verdict, with the reward and its text. -/
inductive Judged (u : Unicode) : Decimal → Option String → PyVerifyVerdict → Prop where
  | completed {reward : Decimal} {text : String} (hreward : Reward u reward text) :
    Judged u reward (some text) (completedVerdict (1 ≤ (Number.float reward).toRat))
  | incomplete (error : String) : Judged u .zero none (incompleteVerdict error)

theorem wp_readRewardIn (n : ℕ) {w : W} :
    wp (readRewardIn u solveEnv n) (fun read _ ↦ Reward u read.1 read.2) (fun _ _ ↦ True) w := by
  induction n generalizing w with
  | zero => exact trivial
  | succ n ih =>
    rw [readRewardIn, wp_bind]
    refine wp_mono wp_exec (fun stdout w' _ ↦ ?_) (fun _ _ _ ↦ trivial)
    cases stdout with
    | none => exact trivial
    | some stdout =>
      dsimp only
      rw [wp_ite, wp_ite, wp_ite]
      exact ⟨fun _ ↦ ih, fun _ ↦ ⟨fun hzero ↦ .zero hzero, fun _ ↦ ⟨fun hone ↦ .one hone,
        fun _ ↦ trivial⟩⟩⟩

theorem wp_judgeReward {w : W} :
    wp (judgeReward u solveEnv) (fun judged _ ↦ Judged u judged.1 judged.2.1 judged.2.2)
      (fun _ _ ↦ True) w := by
  rw [judgeReward, wp_tryCatch, wp_bind]
  refine wp_mono (wp_readRewardIn 2) (fun read w' hread ↦ .completed hread) (fun error w' _ ↦ ?_)
  cases error with
  | caught text => exact .incomplete text
  | other text => exact trivial
  | writing error => exact trivial

/-- **A live verdict**, and the files that it leaves. -/
theorem wp_verify {taskName : String} {verifyTimeoutSec : ℚ} {s : W × Artifacts} :
    wp (verify u solveEnv taskName verifyTimeoutSec)
      (fun outcome s' ↦ ∃ rewardText result, Judged u outcome.reward rewardText outcome.verdict ∧
        resultText outcome.verdict (.obj outcome.info) = .ok result ∧
        Leaves s.2 s'.2 (ofString outcome.stdout) result (rewardText.map ofString))
      (fun _ _ ↦ True) s := by
  rw [verify, wp_bind, wp_onWorld]
  refine wp_mono wp_exec (fun _ _ _ ↦ ?_) (fun _ _ _ ↦ trivial)
  rw [wp_bind, wp_onWorld]
  refine wp_mono wp_exec (fun _ _ _ ↦ ?_) (fun _ _ _ ↦ trivial)
  rw [wp_bind, wp_onWorld]
  refine wp_mono wp_exec (fun execResult _ _ ↦ ?_) (fun _ _ _ ↦ trivial)
  rw [wp_bind, wp_onWorld]
  refine wp_mono wp_exec (fun testStdout _ _ ↦ ?_) (fun _ _ _ ↦ trivial)
  rw [wp_bind, wp_onWorld]
  refine wp_mono wp_judgeReward (fun judged _ hjudged ↦ ?_) (fun _ _ _ ↦ trivial)
  obtain ⟨reward, rewardText, verdict⟩ := judged
  dsimp only
  rw [wp_bind, wp_onArtifacts]
  refine wp_writeVerifierArtifacts (fun result left hresult hleaves ↦ ?_) (fun _ _ _ ↦ trivial)
  exact ⟨rewardText, result, hjudged, hresult, hleaves⟩

end Live

/-! ## The verdict that was recorded -/

section Recorded

variable {u : Unicode} {outcome : VerifierOutcome} {rewardText : Option String}

theorem nodup_info : (outcome.info.map Prod.fst).Nodup := by
  have hkeys : (["task_name", "verifier_exit_code"].map ofString).Nodup :=
    List.Nodup.map ofString_injective (by decide)
  exact hkeys

theorem sortKeys_info : PyJson.sortKeys (.obj outcome.info) = .obj outcome.info := by
  have hsorted : outcome.info.Pairwise fun member member' ↦ PyJson.keyLe member member' = true := by
    have hle : (ofString "task_name").map CodePoint.toNat ≤
        (ofString "verifier_exit_code").map CodePoint.toNat := by decide
    simp only [VerifierOutcome.info, List.pairwise_cons, List.mem_singleton, forall_eq]
    exact ⟨decide_eq_true hle, by simp⟩
  rw [PyJson.sortKeys_obj]
  exact congrArg PyJson.obj (List.mergeSort_of_pairwise hsorted)

theorem Judged.verdict_cases {reward : Decimal} {verdict : PyVerifyVerdict}
    (h : Judged u reward rewardText verdict) :
    (∃ passed, verdict = completedVerdict passed) ∨ ∃ error, verdict = incompleteVerdict error := by
  cases h with
  | completed hreward => exact Or.inl ⟨_, rfl⟩
  | incomplete error => exact Or.inr ⟨error, rfl⟩

theorem sorted_stepResult (h : Judged u outcome.reward rewardText outcome.verdict) :
    outcome.stepResult.sorted = outcome.stepResult := by
  have hempty : PyJson.sortKeys (.obj []) = .obj [] := by
    rw [PyJson.sortKeys_obj, List.map_nil, List.mergeSort_nil]
  have hverdict : outcome.verdict.sorted = outcome.verdict := by
    rcases h.verdict_cases with ⟨passed, hverdict⟩ | ⟨error, hverdict⟩
    · rw [hverdict]
      rfl
    · rw [hverdict]
      rfl
  rw [PyStepResult.sorted, VerifierOutcome.stepResult]
  simp only [sortKeys_info, hempty, Option.map_some, hverdict]
  rfl

theorem tidy_stepResult (h : Judged u outcome.reward rewardText outcome.verdict)
    (hexit : (Json.renderNat outcome.exitCode.natAbs).length ≤ PyJson.MAX_STR_DIGITS) :
    outcome.stepResult.asdict.Tidy := by
  have hname (s : String) : PyJson.NoPair (ofString s) := PyJson.noPair_ofString s
  have hempty : PyJson.NoPair [] := PyJson.noPair_of_encodable rfl
  have hverdict : (PyJson.ofOption PyVerifyVerdict.asdict (some outcome.verdict)).Tidy := by
    have hkeys : (["completed", "passed", "error"].map ofString).Nodup :=
      List.Nodup.map ofString_injective (by decide)
    rcases h.verdict_cases with ⟨passed, hverdict⟩ | ⟨error, hverdict⟩
    · rw [hverdict]
      exact ⟨hkeys, ⟨hname _, trivial⟩, ⟨hname _, trivial⟩, ⟨hname _, trivial⟩, trivial⟩
    · rw [hverdict]
      exact ⟨hkeys, ⟨hname _, trivial⟩, ⟨hname _, trivial⟩, ⟨hname _, hname _⟩, trivial⟩
  exact ⟨nodup_stepResult, ⟨hname _, nodup_rawEnvOutput, ⟨hname _, hempty⟩, ⟨hname _, trivial⟩,
    ⟨hname _, hexit⟩, ⟨hname _, hname _⟩, ⟨hname _, hname _⟩, trivial⟩, ⟨hname _, trivial⟩,
    ⟨hname _, trivial⟩, ⟨hname _, trivial⟩,
    ⟨hname _, nodup_info, ⟨hname _, hname _⟩, ⟨hname _, hexit⟩, trivial⟩,
    ⟨hname _, List.nodup_nil, trivial⟩, ⟨hname _, hverdict⟩, trivial⟩

/-- A verdict that was recorded is read back as it was. -/
theorem deserialize_row (h : Judged u outcome.reward rewardText outcome.verdict) {row : Text}
    (hrow : outcome.stepResult.serialize = .ok row) :
    deserializeStepResult row = .ok outcome.stepResult := by
  have hdump : PyJson.dump .compact (PyJson.sortKeys outcome.stepResult.asdict) = some row := by
    rw [PyStepResult.serialize] at hrow
    split at hrow
    · next text htext =>
      cases hrow
      exact htext
    · cases hrow
  obtain ⟨hwritable, rfl⟩ := PyJson.dump_eq_some.mp hdump
  have hinfo : PyJson.Writable (.obj outcome.info) :=
    PyJson.writable_obj.mp (PyJson.writable_sortKeys.mp hwritable) (ofString "info", .obj outcome.info)
      (by simp [VerifierOutcome.stepResult])
  have hexit : PyJson.Writable (.int outcome.exitCode) :=
    PyJson.writable_obj.mp hinfo (ofString "verifier_exit_code", .int outcome.exitCode)
      (by simp [VerifierOutcome.info])
  have htidy := tidy_stepResult h (hexit _ (List.mem_singleton_self _))
  rw [deserializeStepResult_of_loads (PyJson.loads_dumps htidy.sortKeys _), sorted_stepResult h]

end Recorded

/-! ## The files of a verdict that was not executed -/

/-- The files are those of the live verdict; only the text of the reward is written anew. -/
structure Rebuilt (u : Unicode) (verdict : PyVerifyVerdict) (live before left : Artifacts) : Prop where
  testStdout : left.file "test-stdout.txt" = live.file "test-stdout.txt"
  result : left.file "result.json" = live.file "result.json"
  completed : verdict.completed = .bool true → ∃ rewardText,
    live.file "reward.txt" = some (ofString rewardText) ∧
    left.file "reward.txt" = some (ofString (u.strip rewardText ++ "\n")) ∧
    u.strip (u.strip rewardText ++ "\n") = u.strip rewardText ∧
    (u.strip rewardText = "0" ∧ verdict.passed = .bool false ∨
      u.strip rewardText = "1" ∧ verdict.passed = .bool true)
  incomplete : verdict.completed = .bool false → left.file "reward.txt" = before.file "reward.txt"
  others : ∀ name, name ∉ ["test-stdout.txt", "result.json", "reward.txt"] →
    left.file name = before.file name

section Replayed

variable {W : Type} {u : Unicode} {solveEnv : SolveEnv W} {outcome : VerifierOutcome}

theorem strip_line {c : Char} (hspace : u.isSpace c = false) :
    u.strip (String.ofList [c, '\n']) = String.ofList [c] := by
  have hnewline : u.isSpace '\n' = true := by
    rw [u.isSpace_ascii '\n' (by decide)]
    decide
  simp [Unicode.strip, hspace, hnewline, List.rdropWhile]

theorem strip_digit {digit : String} (h : digit = "0" ∨ digit = "1") : u.strip (digit ++ "\n") = digit := by
  rcases h with rfl | rfl
  · exact strip_line (c := '0') ((u.isSpace_ascii _ (by decide)).trans (by decide))
  · exact strip_line (c := '1') ((u.isSpace_ascii _ (by decide)).trans (by decide))

/-- What a read verdict writes. -/
theorem exec_writeVerifyArtifacts {rewardText : Option String} {result : Text}
    (hjudged : Judged u outcome.reward rewardText outcome.verdict)
    (hresult : resultText outcome.verdict (.obj outcome.info) = .ok result) (before : Artifacts) :
    ∃ left, exec (writeVerifyArtifacts outcome.stepResult) before = (.ok (), left) ∧
      Leaves before left (ofString outcome.stdout) result
        ((rewardText.map fun text ↦ u.strip text ++ "\n").map ofString) := by
  have hwrites (text : Option String) : ∃ left, exec (writeVerifierArtifacts
      (.str (ofString outcome.stdout)) (.obj outcome.info) outcome.verdict (text.map ofString)) before =
        (.ok (), left) ∧ Leaves before left (ofString outcome.stdout) result (text.map ofString) := by
    have hwp : wp (writeVerifierArtifacts (.str (ofString outcome.stdout)) (.obj outcome.info)
        outcome.verdict (text.map ofString)) (fun _ left ↦ Leaves before left (ofString outcome.stdout)
          result (text.map ofString)) (fun _ _ ↦ False) before := by
      refine wp_writeVerifierArtifacts (fun result' left hresult' hleaves ↦ ?_) (fun error _ herror ↦ ?_)
      · cases hresult.symm.trans hresult'
        exact hleaves
      · cases hresult.symm.trans herror
    obtain ⟨⟨⟩, left, hexec, hleaves⟩ := exec_of_returns hwp
    exact ⟨left, hexec, hleaves⟩
  obtain ⟨exitCode, stdout, stderr, reward, taskName, verdict⟩ := outcome
  dsimp only at hjudged hresult hwrites
  cases hjudged with
  | incomplete error => exact hwrites none
  | completed hreward =>
    cases hreward with
    | zero htext =>
      rw [Option.map_some, htext]
      exact hwrites (some ("0" ++ "\n"))
    | one htext =>
      rw [Option.map_some, htext]
      exact hwrites (some ("1" ++ "\n"))

/-- **A verdict that is served from the step cache leaves the files of the live one.** -/
theorem replayed_artifacts {taskName : String} {verifyTimeoutSec : ℚ} {s s' : W × Artifacts} {row : Text}
    (hverify : exec (verify u solveEnv taskName verifyTimeoutSec) s = (.ok outcome, s'))
    (hrow : outcome.stepResult.serialize = .ok row) (before : Artifacts) :
    ∃ result left, deserializeStepResult row = .ok result ∧
      exec (writeVerifyArtifacts result) before = (.ok (), left) ∧
      Rebuilt u outcome.verdict s'.2 before left := by
  obtain ⟨rewardText, result, hjudged, hresult, hlive⟩ := wp_ok wp_verify hverify
  obtain ⟨left, hexec, hleaves⟩ := exec_writeVerifyArtifacts hjudged hresult before
  refine ⟨outcome.stepResult, left, deserialize_row hjudged hrow, hexec,
    hleaves.testStdout.trans hlive.testStdout.symm, hleaves.result.trans hlive.result.symm,
    fun hcompleted ↦ ?_, fun hincomplete ↦ ?_, hleaves.others⟩
  · have hreward := hleaves.reward
    have hreward' := hlive.reward
    obtain ⟨exitCode, stdout, stderr, reward, taskName, verdict⟩ := outcome
    dsimp only at hjudged hcompleted
    cases hjudged with
    | incomplete error => cases hcompleted
    | completed hread =>
      refine ⟨_, hreward', hreward, ?_⟩
      cases hread with
      | zero htext =>
        have hzero : (Number.float .zero).toRat = 0 := by simp [Number.toRat, Decimal.zero]
        rw [htext, strip_digit (Or.inl rfl)]
        refine ⟨rfl, Or.inl ⟨rfl, congrArg PyJson.bool (decide_eq_false ?_)⟩⟩
        rw [hzero]
        decide
      | one htext =>
        have hone : (Number.float .one).toRat = 1 := by simp [Number.toRat, Decimal.one]
        rw [htext, strip_digit (Or.inr rfl)]
        exact ⟨rfl, Or.inr ⟨rfl, congrArg PyJson.bool (decide_eq_true hone.ge)⟩⟩
  · have hreward := hleaves.reward
    obtain ⟨exitCode, stdout, stderr, reward, taskName, verdict⟩ := outcome
    dsimp only at hjudged hincomplete
    cases hjudged with
    | incomplete error => exact hreward
    | completed hread => cases hincomplete

end Replayed

/-- A container whose tests pass. -/
def passingContainer : SolveEnv Unit where
  provision := return
  run command _ _ := return ⟨0, if command = "cat /logs/verifier/reward.txt" then "1\n" else "ok", ""⟩
  uploadDir _ := return

/-- The verdict of tests that pass is served. -/
theorem replayed_artifacts_passing : ∃ outcome s' row result left,
    exec (verify .ascii passingContainer "sort-lines" 60) ((), none) = (.ok outcome, s') ∧
      deserializeStepResult row = .ok result ∧
      exec (writeVerifyArtifacts result) none = (.ok (), left) ∧
      Rebuilt .ascii outcome.verdict s'.2 none left := by
  have hreturns : wp (verify .ascii passingContainer "sort-lines" 60)
      (fun outcome _ ↦ outcome.stepResult.serialize.isOk = true) (fun _ _ ↦ False) ((), none) := by
    have hone : Unicode.ascii.strip "1\n" = "1" := strip_digit (Or.inr rfl)
    have hjudge : exec (judgeReward .ascii passingContainer) () =
        (.ok (.one, some "1\n", completedVerdict (1 ≤ (Number.float .one).toRat)), ()) := by
      rfl
    rw [verify, wp_bind, wp_onWorld, wp_of_exec (m := passingContainer.provision) rfl, wp_bind, wp_onWorld,
      wp_of_exec (m := installTests passingContainer) rfl, wp_bind, wp_onWorld,
      wp_of_exec (m := passingContainer.run _ _ _) rfl, wp_bind, wp_onWorld,
      wp_of_exec (m := passingContainer.readFile _) rfl, wp_bind, wp_onWorld, wp_of_exec hjudge]
    dsimp only
    rw [wp_bind, wp_onArtifacts]
    refine wp_writeVerifierArtifacts (fun result left _ _ ↦ ?_) (fun error left herror ↦ ?_)
    · rw [wp_pure, PyStepResult.serialize_tidy (tidy_stepResult (.completed (.one hone)) (by decide))]
      rfl
    · have hwritable : ∀ digits ∈ PyJson.integers (.obj (verifierArtifact
          [(ofString "task_name", .str (ofString "sort-lines")), (ofString "verifier_exit_code", .int 0)]
          (completedVerdict (1 ≤ (Number.float .one).toRat)))), digits ≤ PyJson.MAX_STR_DIGITS := by
        decide
      exact not_writable_of_resultText herror hwritable
  obtain ⟨outcome, s', hverify, hwritten⟩ := exec_of_returns hreturns
  cases hrow : outcome.stepResult.serialize with
  | error error =>
    rw [hrow] at hwritten
    cases hwritten
  | ok row =>
    obtain ⟨result, left, hread, hexec, hrebuilt⟩ := replayed_artifacts hverify hrow none
    exact ⟨outcome, s', row, result, left, hverify, hread, hexec, hrebuilt⟩

/-! ## The networks of the tasks -/

/-- `ManagedDockerNetwork`. -/
structure ManagedDockerNetwork where
  subnet : String
  ipv4Address : String
  deriving DecidableEq

/-- `f"{n}"`. -/
def decimal (n : ℕ) : String := String.ofList (Json.renderNat n)

/-- `_managed_network_for_index`. -/
def managedNetworkForIndex (index : ℕ) : ManagedDockerNetwork :=
  let secondOctet := 240 + index / 256
  let thirdOctet := index % 256
  { subnet := "10." ++ decimal secondOctet ++ "." ++ decimal thirdOctet ++ ".0/24"
    ipv4Address := "10." ++ decimal secondOctet ++ "." ++ decimal thirdOctet ++ ".2" }

/-- `_load_task_index`, of the directories with a `task.toml`. -/
def loadTaskIndex (directories : Finset String) : Except String (List (String × ManagedDockerNetwork)) :=
  if directories = ∅ then .error "no Terminal-Bench task.toml files found"
  else .ok ((directories.sort (· ≤ ·)).zipIdx.map fun entry ↦ (entry.1, managedNetworkForIndex entry.2))

/-- `load_tasks`, but for what `task.toml` says. -/
def loadTasks (directories : Finset String) (taskIds : List String) :
    Except String (List (String × ManagedDockerNetwork)) := do
  let index ← loadTaskIndex directories
  taskIds.mapM fun taskId ↦
    match index.lookup taskId with
    | none => .error "unknown Terminal-Bench task names"
    | some network => .ok (taskId, network)

/-- The addresses of a subnet. -/
def ManagedDockerNetwork.addresses (network : ManagedDockerNetwork) : Set ℕ :=
  Ipv4.addresses network.subnet.toList

theorem toList_subnet (index : ℕ) : (managedNetworkForIndex index).subnet.toList =
    Ipv4.dotted 10 (240 + index / 256) (index % 256) 0 ++ '/' :: Json.renderNat 24 := by
  have hten : Json.renderNat 10 = "10".toList := by decide
  have hzero : Json.renderNat 0 = "0".toList := by decide
  have hbits : Json.renderNat 24 = "24".toList := by decide
  simp [managedNetworkForIndex, decimal, Ipv4.dotted, hten, hzero, hbits]

theorem toList_ipv4Address (index : ℕ) : (managedNetworkForIndex index).ipv4Address.toList =
    Ipv4.dotted 10 (240 + index / 256) (index % 256) 2 := by
  have hten : Json.renderNat 10 = "10".toList := by decide
  have htwo : Json.renderNat 2 = "2".toList := by decide
  simp [managedNetworkForIndex, decimal, Ipv4.dotted, hten, htwo]

/-- The subnet of an index is one of 4096, or none. -/
theorem mem_addresses {index address : ℕ} : address ∈ (managedNetworkForIndex index).addresses ↔
    index < 4096 ∧ address / 256 = (10 * 256 + (240 + index / 256)) * 256 + index % 256 := by
  have hmem : address ∈ (managedNetworkForIndex index).addresses ↔ ∃ network ∈ Ipv4.network?
      (managedNetworkForIndex index).subnet.toList, address ∈ network.addresses := Iff.rfl
  rw [hmem, toList_subnet, Ipv4.network?_dotted _ _ _ _ (by decide), Ipv4.address?_dotted]
  by_cases hindex : index < 4096
  · rw [if_pos (by omega), Option.map_some, and_iff_right hindex]
    simp only [Option.mem_some_iff, exists_eq_left', Ipv4.mem_network_addresses]
    omega
  · rw [if_neg (by omega), Option.map_none]
    simp [hindex]

/-- **Networks of two tasks share no address.** -/
theorem disjoint_managedNetworks {index index' : ℕ} (h : index ≠ index') :
    ∀ address ∈ (managedNetworkForIndex index).addresses,
      address ∉ (managedNetworkForIndex index').addresses := by
  intro address haddress haddress'
  rw [mem_addresses] at haddress haddress'
  omega

/-- The address of a container is in the network of its task. -/
theorem ipv4Address_mem {index : ℕ} (h : index < 4096) : ∃ address ∈ (managedNetworkForIndex index).addresses,
    Ipv4.address? (managedNetworkForIndex index).ipv4Address.toList = some address := by
  rw [toList_ipv4Address, Ipv4.address?_dotted, if_pos (by omega)]
  refine ⟨_, mem_addresses.mpr ⟨h, ?_⟩, rfl⟩
  omega

/-- The network of a task is that of its place among all tasks. -/
theorem network_of_loadTasks {directories : Finset String} {taskIds : List String}
    {tasks : List (String × ManagedDockerNetwork)} (h : loadTasks directories taskIds = .ok tasks)
    {taskId : String} {network : ManagedDockerNetwork} (hmem : (taskId, network) ∈ tasks) :
    ∃ i, (directories.sort (· ≤ ·))[i]? = some taskId ∧ network = managedNetworkForIndex i := by
  rw [loadTasks] at h
  obtain ⟨index, hindex, h⟩ := bind_eq_ok h
  obtain ⟨taskId', -, htask⟩ := mem_of_mapM_ok h hmem
  cases hlookup : index.lookup taskId' with
  | none =>
    rw [hlookup] at htask
    cases htask
  | some network' =>
    rw [hlookup] at htask
    cases htask
    rw [loadTaskIndex] at hindex
    split at hindex
    · cases hindex
    · cases hindex
      obtain ⟨before, after, hentries, -⟩ := List.lookup_eq_some_iff.mp hlookup
      obtain ⟨entry, hentry, heq⟩ := List.mem_map.mp
        (hentries ▸ List.mem_append_right before (List.mem_cons_self (l := after)))
      obtain ⟨rfl, rfl⟩ := Prod.mk.inj heq
      exact ⟨entry.2, List.mem_zipIdx_iff_getElem?.mp hentry, rfl⟩

/-- **The network of a task depends on no panel**, and no other task shares an address of it. -/
theorem networks_of_loadTasks {directories : Finset String} {taskIds taskIds' : List String}
    {tasks tasks' : List (String × ManagedDockerNetwork)} (h : loadTasks directories taskIds = .ok tasks)
    (h' : loadTasks directories taskIds' = .ok tasks') {taskId taskId' : String}
    {network network' : ManagedDockerNetwork} (hmem : (taskId, network) ∈ tasks)
    (hmem' : (taskId', network') ∈ tasks') :
    (taskId = taskId' → network = network') ∧
      (taskId ≠ taskId' → ∀ address ∈ network.addresses, address ∉ network'.addresses) := by
  obtain ⟨i, hi, rfl⟩ := network_of_loadTasks h hmem
  obtain ⟨i', hi', rfl⟩ := network_of_loadTasks h' hmem'
  have hnodup : (directories.sort (· ≤ ·)).Nodup := Finset.sort_nodup ..
  constructor
  · rintro rfl
    rw [(List.getElem?_inj (List.getElem?_eq_some_iff.mp hi).1 hnodup).mp (hi.trans hi'.symm)]
  · intro hne
    refine disjoint_managedNetworks fun heq ↦ hne ?_
    subst heq
    exact Option.some.inj (hi.symm.trans hi')

end TerminalBench

end HarnessTraining
