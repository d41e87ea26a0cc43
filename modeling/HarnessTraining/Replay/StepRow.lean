import HarnessTraining.Library.PyJson.Order
import HarnessTraining.Library.StateExcept
import HarnessTraining.Replay.Codec

/-!
# Rows of the step cache

`serialize_step_result` of `src/rollout/certification.py` and `_deserialize` of
`src/plugins/replay/step_cache.py`, over everything that Python lets them meet: no dataclass checks the
types of its fields, so a field is any value of `json`, with its dictionaries in some order.

* `PyStepResult.serialize`, `deserializeStepResult` — the codec;
* `PyStepResult.Same` — equality of results;
* `stepResult_codec` — what is written is read back, and equal results are written alike.
-/

set_option autoImplicit false

open Python StateExcept

namespace PyJson

/-- `bool(value)`. -/
def truthy : PyJson → Bool
  | .null => false
  | .bool b => b
  | .int z => z ≠ 0
  | .float q => q.mantissa ≠ 0
  | .const _ => true
  | .str text => text ≠ []
  | .arr items => !items.isEmpty
  | .obj members => !members.isEmpty

def isNull : PyJson → Bool
  | .null => true
  | _ => false

theorem truthy_sortKeys (value : PyJson) : (sortKeys value).truthy = value.truthy := by
  cases value with
  | arr items => cases items <;> rfl
  | obj members =>
    rw [sortKeys_obj, truthy, truthy, Bool.not_inj_iff, Bool.eq_iff_iff, List.isEmpty_iff_length_eq_zero,
      List.isEmpty_iff_length_eq_zero, List.length_mergeSort, List.length_map]
  | null | bool _ | int _ | float _ | const _ | str _ => rfl

theorem isNull_sortKeys (value : PyJson) : (sortKeys value).isNull = value.isNull := by
  cases value with
  | null | bool _ | int _ | float _ | const _ | str _ | arr _ | obj _ => rfl

end PyJson

namespace HarnessTraining

/-! ## Records -/

/-- `RawEnvOutput`. -/
structure PyRawEnvOutput where
  instruction : PyJson := .str []
  workingDir : PyJson := .null
  exitCode : PyJson := .null
  stdout : PyJson := .str []
  stderr : PyJson := .str []

/-- What `VerifyVerdict.__post_init__` lets pass. -/
def verdictValid (completed passed error : PyJson) : Bool :=
  if completed.truthy then !passed.isNull && error.isNull else !error.isNull && passed.isNull

/-- `VerifyVerdict`. -/
structure PyVerifyVerdict where
  completed : PyJson
  passed : PyJson
  error : PyJson
  valid : verdictValid completed passed error = true

/-- `StepResult`. -/
structure PyStepResult where
  rawEnvOutput : PyRawEnvOutput
  reward : PyJson
  terminated : PyJson
  truncated : PyJson
  info : PyJson := .obj []
  metrics : PyJson := .obj []
  verdict : Option PyVerifyVerdict := none

/-! ## The codec -/

/-- An exception of the codec. -/
inductive CodecError where
  /-- `JSONDecodeError`. -/
  | malformed
  /-- A `ValueError`: an integer has too many digits to be read or written. -/
  | digitLimit
  | access (error : PyJson.AccessError)
  /-- A `TypeError`: what stands behind `**` is no mapping, or its keys are not the parameters. -/
  | keywords
  /-- A `ValueError` of `VerifyVerdict.__post_init__`. -/
  | invalidVerdict
  deriving DecidableEq

def PyRawEnvOutput.asdict (raw : PyRawEnvOutput) : PyJson := .obj [
  (ofString "instruction", raw.instruction),
  (ofString "working_dir", raw.workingDir),
  (ofString "exit_code", raw.exitCode),
  (ofString "stdout", raw.stdout),
  (ofString "stderr", raw.stderr)]

def PyVerifyVerdict.asdict (verdict : PyVerifyVerdict) : PyJson := .obj [
  (ofString "completed", verdict.completed),
  (ofString "passed", verdict.passed),
  (ofString "error", verdict.error)]

/-- `dataclasses.asdict`. -/
def PyStepResult.asdict (result : PyStepResult) : PyJson := .obj [
  (ofString "raw_env_output", result.rawEnvOutput.asdict),
  (ofString "reward", result.reward),
  (ofString "terminated", result.terminated),
  (ofString "truncated", result.truncated),
  (ofString "info", result.info),
  (ofString "metrics", result.metrics),
  (ofString "verdict", .ofOption PyVerifyVerdict.asdict result.verdict)]

/-- `serialize_step_result`. -/
def PyStepResult.serialize (result : PyStepResult) : Except CodecError Text :=
  match PyJson.dump .compact (PyJson.sortKeys result.asdict) with
  | some text => .ok text
  | none => .error .digitLimit

/-- The members of a mapping whose keys are parameters. -/
def keywords (parameters : List String) : PyJson → Except CodecError (List (Text × PyJson))
  | .obj members =>
    if members.all fun member ↦ member.1 ∈ parameters.map ofString then .ok members else .error .keywords
  | _ => .error .keywords

/-- `RawEnvOutput(**value)`. -/
def PyRawEnvOutput.ofKeywords (value : PyJson) : Except CodecError PyRawEnvOutput := do
  let members ← keywords ["instruction", "working_dir", "exit_code", "stdout", "stderr"] value
  return {
    instruction := (PyJson.get? (ofString "instruction") members).getD (.str [])
    workingDir := (PyJson.get? (ofString "working_dir") members).getD .null
    exitCode := (PyJson.get? (ofString "exit_code") members).getD .null
    stdout := (PyJson.get? (ofString "stdout") members).getD (.str [])
    stderr := (PyJson.get? (ofString "stderr") members).getD (.str []) }

/-- `VerifyVerdict(**value)`. -/
def PyVerifyVerdict.ofKeywords (value : PyJson) : Except CodecError PyVerifyVerdict := do
  let members ← keywords ["completed", "passed", "error"] value
  match PyJson.get? (ofString "completed") members, PyJson.get? (ofString "passed") members,
    PyJson.get? (ofString "error") members with
  | some completed, some passed, some error =>
    if h : verdictValid completed passed error = true then return ⟨completed, passed, error, h⟩
    else throw .invalidVerdict
  | _, _, _ => throw .keywords

/-- `_deserialize`. -/
def deserializeStepResult (text : Text) : Except CodecError PyStepResult := do
  let data ← match PyJson.loads text with
    | .ok data => .ok data
    | .error .malformed => .error .malformed
    | .error .digitLimit => .error .digitLimit
  let item (key : String) : Except CodecError PyJson := (data.getItem key).mapError .access
  return {
    rawEnvOutput := ← PyRawEnvOutput.ofKeywords (← item "raw_env_output")
    reward := ← item "reward"
    terminated := ← item "terminated"
    truncated := ← item "truncated"
    info := ← item "info"
    metrics := ← item "metrics"
    verdict := ← match ← item "verdict" with
      | .null => .ok none
      | value => some <$> PyVerifyVerdict.ofKeywords value }

/-! ## Equality -/

structure PyRawEnvOutput.Same (raw raw' : PyRawEnvOutput) : Prop where
  instruction : raw.instruction.Same raw'.instruction
  workingDir : raw.workingDir.Same raw'.workingDir
  exitCode : raw.exitCode.Same raw'.exitCode
  stdout : raw.stdout.Same raw'.stdout
  stderr : raw.stderr.Same raw'.stderr

structure PyVerifyVerdict.Same (verdict verdict' : PyVerifyVerdict) : Prop where
  completed : verdict.completed.Same verdict'.completed
  passed : verdict.passed.Same verdict'.passed
  error : verdict.error.Same verdict'.error

/-- Equality of results, up to the order of the keys. -/
structure PyStepResult.Same (result result' : PyStepResult) : Prop where
  rawEnvOutput : result.rawEnvOutput.Same result'.rawEnvOutput
  reward : result.reward.Same result'.reward
  terminated : result.terminated.Same result'.terminated
  truncated : result.truncated.Same result'.truncated
  info : result.info.Same result'.info
  metrics : result.metrics.Same result'.metrics
  verdict : Option.Rel PyVerifyVerdict.Same result.verdict result'.verdict

theorem PyRawEnvOutput.Same.asdict {raw raw' : PyRawEnvOutput} (h : raw.Same raw') :
    raw.asdict.Same raw'.asdict := by
  simp [PyRawEnvOutput.asdict, PyJson.Same, PyJson.SameMembers, PyJson.get?_ofString_cons, h.instruction,
    h.workingDir, h.exitCode, h.stdout, h.stderr]

theorem PyVerifyVerdict.Same.asdict {verdict verdict' : PyVerifyVerdict} (h : verdict.Same verdict') :
    verdict.asdict.Same verdict'.asdict := by
  simp [PyVerifyVerdict.asdict, PyJson.Same, PyJson.SameMembers, PyJson.get?_ofString_cons, h.completed,
    h.passed, h.error]

theorem same_verdict {verdict verdict' : Option PyVerifyVerdict}
    (h : Option.Rel PyVerifyVerdict.Same verdict verdict') :
    (PyJson.ofOption PyVerifyVerdict.asdict verdict).Same
      (PyJson.ofOption PyVerifyVerdict.asdict verdict') := by
  cases h with
  | some hsame => exact hsame.asdict
  | none => trivial

/-- Equal results are equal dictionaries. -/
theorem PyStepResult.Same.asdict {result result' : PyStepResult} (h : result.Same result') :
    result.asdict.Same result'.asdict := by
  have hverdict := same_verdict h.verdict
  simp [PyStepResult.asdict, PyJson.Same, PyJson.SameMembers, PyJson.get?_ofString_cons,
    h.rawEnvOutput.asdict, h.reward, h.terminated, h.truncated, h.info, h.metrics, hverdict]

/-! ## Reading a row back -/

section Sorted

variable {members : List (Text × PyJson)} (hkeys : (members.map Prod.fst).Nodup)

include hkeys

theorem getItem_sortKeys {key : String} {value : PyJson}
    (h : PyJson.get? (ofString key) members = some value) :
    (PyJson.sortKeys (.obj members)).getItem key = .ok (PyJson.sortKeys value) := by
  rw [PyJson.sortKeys_obj, PyJson.getItem, PyJson.get?_sorted hkeys, h]
  rfl

/-- The keywords of a sorted dictionary are those of the dictionary. -/
theorem keywords_sortKeys {parameters : List String}
    (h : ∀ member ∈ members, member.1 ∈ parameters.map ofString) :
    ∃ sorted, keywords parameters (PyJson.sortKeys (.obj members)) = .ok sorted ∧
      ∀ key, PyJson.get? key sorted = (PyJson.get? key members).map PyJson.sortKeys := by
  rw [PyJson.sortKeys_obj, keywords, if_pos]
  · exact ⟨_, rfl, PyJson.get?_sorted hkeys⟩
  · refine List.all_eq_true.mpr fun member hmember ↦ decide_eq_true ?_
    obtain ⟨member', hmember', rfl⟩ := List.mem_map.mp (List.mem_mergeSort.mp hmember)
    exact h member' hmember'

end Sorted

/-- The output with its dictionaries sorted. -/
def PyRawEnvOutput.sorted (raw : PyRawEnvOutput) : PyRawEnvOutput where
  instruction := PyJson.sortKeys raw.instruction
  workingDir := PyJson.sortKeys raw.workingDir
  exitCode := PyJson.sortKeys raw.exitCode
  stdout := PyJson.sortKeys raw.stdout
  stderr := PyJson.sortKeys raw.stderr

def PyVerifyVerdict.sorted (verdict : PyVerifyVerdict) : PyVerifyVerdict where
  completed := PyJson.sortKeys verdict.completed
  passed := PyJson.sortKeys verdict.passed
  error := PyJson.sortKeys verdict.error
  valid := by
    rw [verdictValid, PyJson.truthy_sortKeys, PyJson.isNull_sortKeys, PyJson.isNull_sortKeys]
    exact verdict.valid

def PyStepResult.sorted (result : PyStepResult) : PyStepResult where
  rawEnvOutput := result.rawEnvOutput.sorted
  reward := PyJson.sortKeys result.reward
  terminated := PyJson.sortKeys result.terminated
  truncated := PyJson.sortKeys result.truncated
  info := PyJson.sortKeys result.info
  metrics := PyJson.sortKeys result.metrics
  verdict := result.verdict.map PyVerifyVerdict.sorted

theorem PyRawEnvOutput.ofKeywords_sortKeys (raw : PyRawEnvOutput) :
    PyRawEnvOutput.ofKeywords (PyJson.sortKeys raw.asdict) = .ok raw.sorted := by
  have hkeys : (["instruction", "working_dir", "exit_code", "stdout", "stderr"].map ofString).Nodup :=
    List.Nodup.map ofString_injective (by decide)
  obtain ⟨sorted, hsorted, hget⟩ := @keywords_sortKeys [
      (ofString "instruction", raw.instruction), (ofString "working_dir", raw.workingDir),
      (ofString "exit_code", raw.exitCode), (ofString "stdout", raw.stdout),
      (ofString "stderr", raw.stderr)] hkeys
    ["instruction", "working_dir", "exit_code", "stdout", "stderr"] (by simp)
  rw [PyRawEnvOutput.ofKeywords, PyRawEnvOutput.asdict, hsorted]
  simp [bind, Except.bind, hget, PyJson.get?_ofString_cons, PyRawEnvOutput.sorted, pure, Except.pure]

theorem PyVerifyVerdict.ofKeywords_sortKeys (verdict : PyVerifyVerdict) :
    PyVerifyVerdict.ofKeywords (PyJson.sortKeys verdict.asdict) = .ok verdict.sorted := by
  have hkeys : (["completed", "passed", "error"].map ofString).Nodup :=
    List.Nodup.map ofString_injective (by decide)
  obtain ⟨sorted, hsorted, hget⟩ := @keywords_sortKeys [
      (ofString "completed", verdict.completed), (ofString "passed", verdict.passed),
      (ofString "error", verdict.error)] hkeys ["completed", "passed", "error"] (by simp)
  have hvalid := verdict.sorted.valid
  rw [PyVerifyVerdict.sorted] at hvalid
  rw [PyVerifyVerdict.ofKeywords, PyVerifyVerdict.asdict, hsorted, ok_bind]
  simp only [hget, PyJson.get?_ofString_cons]
  simp [hvalid, PyVerifyVerdict.sorted, pure, Except.pure]

/-- The written dictionary is read as the result with its dictionaries sorted. -/
theorem deserializeStepResult_of_loads {result : PyStepResult} {text : Text}
    (h : PyJson.loads text = .ok (PyJson.sortKeys result.asdict)) :
    deserializeStepResult text = .ok result.sorted := by
  have hkeys : (["raw_env_output", "reward", "terminated", "truncated", "info", "metrics",
      "verdict"].map ofString).Nodup := List.Nodup.map ofString_injective (by decide)
  have hitem {key : String} {value : PyJson}
      (hget : PyJson.get? (ofString key) [
        (ofString "raw_env_output", result.rawEnvOutput.asdict), (ofString "reward", result.reward),
        (ofString "terminated", result.terminated), (ofString "truncated", result.truncated),
        (ofString "info", result.info), (ofString "metrics", result.metrics),
        (ofString "verdict", .ofOption PyVerifyVerdict.asdict result.verdict)] = some value) :
      ((PyJson.sortKeys result.asdict).getItem key).mapError CodecError.access =
        .ok (PyJson.sortKeys value) := by
    rw [PyStepResult.asdict, getItem_sortKeys (by exact hkeys) hget]
    rfl
  have hname (key key' : String) (value : PyJson) (members : List (Text × PyJson)) :=
    PyJson.get?_ofString_cons key key' value members
  rw [deserializeStepResult, h]
  dsimp only
  rw [ok_bind, @hitem "raw_env_output" result.rawEnvOutput.asdict (by simp [hname]), ok_bind,
    PyRawEnvOutput.ofKeywords_sortKeys, ok_bind, @hitem "reward" result.reward (by simp [hname]), ok_bind,
    @hitem "terminated" result.terminated (by simp [hname]), ok_bind,
    @hitem "truncated" result.truncated (by simp [hname]), ok_bind,
    @hitem "info" result.info (by simp [hname]), ok_bind,
    @hitem "metrics" result.metrics (by simp [hname]), ok_bind,
    @hitem "verdict" (.ofOption PyVerifyVerdict.asdict result.verdict) (by simp [hname]), ok_bind]
  cases hverdict : result.verdict with
  | none =>
    rw [PyStepResult.sorted, hverdict]
    rfl
  | some verdict =>
    have hread := verdict.ofKeywords_sortKeys
    rw [PyVerifyVerdict.asdict, PyJson.sortKeys_obj] at hread
    rw [PyJson.ofOption, PyVerifyVerdict.asdict, PyJson.sortKeys_obj, PyStepResult.sorted, hverdict]
    dsimp only
    rw [hread]
    rfl

/-! ## The round trip -/

theorem PyRawEnvOutput.same_sorted {raw : PyRawEnvOutput} (h : raw.asdict.Native) : raw.Same raw.sorted := by
  have hnative := PyJson.nativeMembers_iff.mp h.2
  simp only [List.forall_mem_cons] at hnative
  obtain ⟨hinstruction, hworkingDir, hexitCode, hstdout, hstderr, -⟩ := hnative
  exact ⟨PyJson.same_sortKeys hinstruction, PyJson.same_sortKeys hworkingDir,
    PyJson.same_sortKeys hexitCode, PyJson.same_sortKeys hstdout, PyJson.same_sortKeys hstderr⟩

theorem PyVerifyVerdict.same_sorted {verdict : PyVerifyVerdict} (h : verdict.asdict.Native) :
    verdict.Same verdict.sorted := by
  have hnative := PyJson.nativeMembers_iff.mp h.2
  simp only [List.forall_mem_cons] at hnative
  obtain ⟨hcompleted, hpassed, herror, -⟩ := hnative
  exact ⟨PyJson.same_sortKeys hcompleted, PyJson.same_sortKeys hpassed, PyJson.same_sortKeys herror⟩

/-- A result with its dictionaries sorted is an equal one. -/
theorem PyStepResult.same_sorted {result : PyStepResult} (h : result.asdict.Native) :
    result.Same result.sorted := by
  have hnative := PyJson.nativeMembers_iff.mp h.2
  simp only [List.forall_mem_cons] at hnative
  obtain ⟨hraw, hreward, hterminated, htruncated, hinfo, hmetrics, hverdict, -⟩ := hnative
  refine ⟨PyRawEnvOutput.same_sorted hraw, PyJson.same_sortKeys hreward, PyJson.same_sortKeys hterminated,
    PyJson.same_sortKeys htruncated, PyJson.same_sortKeys hinfo, PyJson.same_sortKeys hmetrics, ?_⟩
  rw [PyStepResult.sorted]
  cases hcase : result.verdict with
  | none => exact .none
  | some verdict =>
    rw [hcase] at hverdict
    exact .some (PyVerifyVerdict.same_sorted hverdict)

/-- What is written is read back as an equal result. -/
def PyStepResult.RoundTrips (result : PyStepResult) : Prop :=
  ∃ text, result.serialize = .ok text ∧
    ∃ result', deserializeStepResult text = .ok result' ∧ result.Same result'

theorem PyStepResult.serialize_tidy {result : PyStepResult} (h : result.asdict.Tidy) :
    result.serialize = .ok (PyJson.dumps .compact (PyJson.sortKeys result.asdict)) := by
  rw [PyStepResult.serialize, PyJson.dump_eq_some.mpr ⟨h.sortKeys.writable, rfl⟩]

/-- **The codec of step results.**  A result of values of JSON is read back as an equal one, if its integers
are short enough to be written and none of its texts has the two halves of a pair in a row; and results
that are equal up to the order of their keys are written alike. -/
theorem stepResult_codec {result : PyStepResult} (h : result.asdict.Native) :
    (result.asdict.Tidy → result.RoundTrips) ∧
      ∀ result' : PyStepResult, result'.asdict.Native → result.Same result' →
        result'.serialize = result.serialize := by
  refine ⟨fun htidy ↦ ?_, fun result' h' hsame ↦ ?_⟩
  · refine ⟨_, result.serialize_tidy htidy, result.sorted, ?_, PyStepResult.same_sorted h⟩
    exact deserializeStepResult_of_loads (PyJson.loads_dumps htidy.sortKeys _)
  · rw [PyStepResult.serialize, PyStepResult.serialize, PyJson.sortKeys_eq_of_same h h' hsame.asdict]

/-! ## Results that do not come back -/

/-- A result with some output and some metrics. -/
def plainResult (stdout : Text) (metrics : List (Text × PyJson)) : PyStepResult where
  rawEnvOutput := { stdout := .str stdout }
  reward := .float .zero
  terminated := .bool false
  truncated := .bool false
  metrics := .obj metrics

theorem nodup_rawEnvOutput :
    (["instruction", "working_dir", "exit_code", "stdout", "stderr"].map ofString).Nodup :=
  List.Nodup.map ofString_injective (by decide)

theorem nodup_stepResult : (["raw_env_output", "reward", "terminated", "truncated", "info", "metrics",
    "verdict"].map ofString).Nodup :=
  List.Nodup.map ofString_injective (by decide)

theorem native_plainResult (stdout : Text) {metrics : List (Text × PyJson)}
    (h : PyJson.Native (.obj metrics)) : (plainResult stdout metrics).asdict.Native :=
  ⟨nodup_stepResult, ⟨nodup_rawEnvOutput, trivial, trivial, trivial, trivial, trivial, trivial⟩, trivial,
    trivial, trivial, ⟨List.nodup_nil, trivial⟩, h, trivial, trivial⟩

theorem tidy_plainResult {stdout : Text} {metrics : List (Text × PyJson)} (hstdout : PyJson.NoPair stdout)
    (h : PyJson.Tidy (.obj metrics)) : (plainResult stdout metrics).asdict.Tidy := by
  have hname (s : String) : PyJson.NoPair (ofString s) := PyJson.noPair_ofString s
  have hempty : PyJson.NoPair [] := PyJson.noPair_of_encodable rfl
  exact ⟨nodup_stepResult, ⟨hname _, nodup_rawEnvOutput, ⟨hname _, hempty⟩, ⟨hname _, trivial⟩,
    ⟨hname _, trivial⟩, ⟨hname _, hstdout⟩, ⟨hname _, hempty⟩, trivial⟩, ⟨hname _, trivial⟩,
    ⟨hname _, trivial⟩, ⟨hname _, trivial⟩, ⟨hname _, List.nodup_nil, trivial⟩, ⟨hname _, h⟩,
    ⟨hname _, trivial⟩, trivial⟩

/-- A count that is too long to be written. -/
theorem not_roundTrips_long {z : ℤ} (hz : 10 ^ PyJson.MAX_STR_DIGITS ≤ z.natAbs) :
    ¬(plainResult [] [(ofString "m", .int z)]).RoundTrips := by
  rintro ⟨text, hserialize, -⟩
  have hlong : ¬PyJson.Writable (PyJson.sortKeys (plainResult [] [(ofString "m", .int z)]).asdict) := by
    rw [PyJson.writable_sortKeys, PyStepResult.asdict, PyJson.writable_obj]
    intro h
    have hmetrics : PyJson.Writable (.obj [(ofString "m", .int z)]) :=
      h (ofString "metrics", .obj [(ofString "m", .int z)]) (by simp [plainResult])
    exact PyJson.not_writable_int hz (PyJson.writable_obj.mp hmetrics _ (List.mem_singleton_self _))
  rw [PyStepResult.serialize, PyJson.dump_eq_none.mpr hlong] at hserialize
  cases hserialize

/-- The two halves of a pair. -/
def halves : Text := [.surrogate 0, .surrogate 0x400]

/-- The output that is read from a row. -/
def readStdout (text : Text) : Option Text :=
  match deserializeStepResult text with
  | .ok ⟨⟨_, _, _, .str stdout, _⟩, _, _, _, _, _, _⟩ => some stdout
  | _ => none

theorem readStdout_halves :
    readStdout (PyJson.dumps .compact (PyJson.sortKeys (plainResult halves []).asdict)) =
      some [.scalar (Char.ofNat 0x10000)] := by
  rw [PyStepResult.asdict, PyRawEnvOutput.asdict,
    PyJson.sortKeys_obj_insertionSort (by exact nodup_stepResult), List.map_cons,
    PyJson.sortKeys_obj_insertionSort (by exact nodup_rawEnvOutput)]
  decide +kernel

theorem not_roundTrips_halves : ¬(plainResult halves []).RoundTrips := by
  rintro ⟨text, hserialize, result', hread, hsame⟩
  have hwritable : PyJson.Writable (PyJson.sortKeys (plainResult halves []).asdict) :=
    PyJson.writable_sortKeys.mpr (PyJson.writable_nil rfl)
  rw [PyStepResult.serialize, PyJson.dump_eq_some.mpr ⟨hwritable, rfl⟩] at hserialize
  obtain rfl := Except.ok.inj hserialize
  have hstdout := readStdout_halves
  rw [readStdout, hread] at hstdout
  have hraw := hsame.rawEnvOutput.stdout
  split at hstdout
  · next stdout _ _ _ _ _ _ _ heq =>
    obtain rfl := Except.ok.inj heq
    obtain rfl := Option.some.inj hstdout
    exact absurd (show halves = _ from hraw) (by decide)
  · cases hstdout

/-- **Results that do not come back**: an integer that is too long, and the halves of a pair. -/
theorem stepResult_codec_refuted :
    (∃ z : ℤ, (plainResult [] [(ofString "m", .int z)]).asdict.Native ∧
      ¬(plainResult [] [(ofString "m", .int z)]).RoundTrips) ∧
    (plainResult halves []).asdict.Native ∧ ¬(plainResult halves []).RoundTrips := by
  have hlong (n : ℕ) : 10 ^ n ≤ ((10 : ℤ) ^ n).natAbs := (Int.natAbs_pow 10 n).ge
  exact ⟨⟨10 ^ PyJson.MAX_STR_DIGITS, native_plainResult _ ⟨List.nodup_singleton _, trivial, trivial⟩,
    not_roundTrips_long (hlong _)⟩, native_plainResult _ ⟨List.nodup_nil, trivial⟩, not_roundTrips_halves⟩

/-- A result with a metric, which comes back. -/
theorem stepResult_codec_out :
    (plainResult (ofString "out") [(ofString "m", .int 2)]).RoundTrips := by
  have hnative : PyJson.Native (.obj [(ofString "m", .int 2)]) := ⟨List.nodup_singleton _, trivial, trivial⟩
  have hshort : (Json.renderNat 2).length ≤ PyJson.MAX_STR_DIGITS := by decide
  have htidy : PyJson.Tidy (.obj [(ofString "m", .int 2)]) :=
    ⟨List.nodup_singleton _, ⟨PyJson.noPair_ofString _, hshort⟩, trivial⟩
  exact (stepResult_codec (native_plainResult _ hnative)).1
    (tidy_plainResult (PyJson.noPair_ofString _) htidy)

end HarnessTraining
