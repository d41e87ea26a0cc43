import HarnessTraining.Library.PyJson.Tidy
import HarnessTraining.Library.StateExcept

/-!
# Official verification

`src/env/swebench_verify.py`: the grade of a patch, as it is read off an official report, and as it is
rebuilt from a row of the verify cache.  A rebuilt grade writes its artifacts again.

* `fromReport` — a grade of a report, accessor by accessor;
* `restoreCached`, `cachePayload` — a grade from a row, and to one;
* `restoreCached_miss_iff` — when a row that is no grade is a miss.
-/

set_option autoImplicit false

namespace HarnessTraining

open Python StateExcept

/-! ## Grades -/

/-- An exception of this module. -/
inductive GradeError where
  | verifierCorrupt (text : Text)
  | access (error : PyJson.AccessError)
  | typeError (text : String)
  | valueError (text : String)
  | jsonDecode
  | unicodeEncode
  /-- Any other exception of a grader. -/
  | other (text : String)
  deriving DecidableEq

/-- What `restore_cached` takes for an unusable row; two of these are kinds of `ValueError`. -/
def GradeError.unusable : GradeError → Bool
  | access (.keyError _) | access (.typeError _) => true
  | verifierCorrupt _ | typeError _ | valueError _ | jsonDecode | unicodeEncode => true
  | access (.attributeError _) | other _ => false

/-- `SweBenchVerifyResult`. -/
structure SweBenchVerifyResult where
  completed : Bool
  stdout : Text := []
  passed : Option Bool := none
  report : Option (List (Text × PyJson)) := none
  error : Option Text := none
  failToPassPassed : Option ℕ := none
  passToPassFailed : Option ℕ := none

/-- The size of a list of tests in a report. -/
def testCount (testsStatus : PyJson) (kind outcome : String) : Except PyJson.AccessError ℕ := do
  (← (← testsStatus.getOr kind (.obj [])).getOr outcome (.arr [])).len

/-- `SweBenchVerifyResult.from_report`. -/
def fromReport (report : List (Text × PyJson)) (stdout instanceId : Text) :
    Except GradeError SweBenchVerifyResult := do
  match PyJson.get? instanceId report with
  | some (.obj instanceReport) =>
    match PyJson.get? (ofString "resolved") instanceReport with
    | some (.bool resolved) =>
      let testsStatus := (PyJson.get? (ofString "tests_status") instanceReport).getD (.obj [])
      let failToPassPassed ← (testCount testsStatus "FAIL_TO_PASS" "success").mapError .access
      let passToPassFailed ← (testCount testsStatus "PASS_TO_PASS" "failure").mapError .access
      return {
        completed := true
        passed := some resolved
        stdout := stdout
        report := some report
        failToPassPassed := some failToPassPassed
        passToPassFailed := some passToPassFailed }
    | _ => throw (.verifierCorrupt (ofString "official SWE-bench resolved field is not boolean for " ++
        instanceId))
  | _ => throw (.verifierCorrupt (ofString "official SWE-bench resolved field missing for " ++
      instanceId))

/-! ## Rows of the verify cache -/

/-- The beginning of what `int` and `str` say of an integer that is too long. -/
def DIGIT_LIMIT : String := "Exceeds the limit (4300 digits) for integer string conversion"

/-- `_VERIFY_CACHE_SCHEMA`. -/
def VERIFY_CACHE_SCHEMA : String := "swe-verify-v2"

/-- `verify_cache_key`, of texts that can be encoded. -/
def verifyCacheKey (sha256 : Text → Text) (swebenchVersion : String) (instanceId diff : Text) : Text :=
  ofString "v:" ++ sha256 (ofString (VERIFY_CACHE_SCHEMA ++ "\u0000" ++ swebenchVersion ++ "\u0000") ++
    instanceId ++ ofString "\u0000" ++ diff)

/-- `cache_payload`. -/
def cachePayload (result : SweBenchVerifyResult) : Except GradeError Text :=
  match PyJson.dump .compact (.obj [
      (ofString "completed", .bool true), (ofString "stdout", .str result.stdout),
      (ofString "report", .ofOption .obj result.report)]) with
  | some text => .ok text
  | none => .error (.valueError DIGIT_LIMIT)

/-- The official artifacts of a rollout: the files of their directory, if there is one. -/
abbrev Artifacts := Option (List (String × Text))

abbrev GradeM := Prog Artifacts GradeError

/-- `path.write_text(text)`, in the directory; the file is there before its text is encoded. -/
def writeText (name : String) (text : Text) : GradeM Unit := do
  if encodable text = true then
    modify fun artifacts ↦ some ((name, text) :: (artifacts.getD []).filter (·.1 ≠ name))
  else
    modify fun artifacts ↦ some ((name, []) :: (artifacts.getD []).filter (·.1 ≠ name))
    throw .unicodeEncode

/-- The part of `restore_cached` that may find a row unusable. -/
def cachedGrade (raw instanceId : Text) : Except GradeError SweBenchVerifyResult := do
  let cached ← match PyJson.loads raw with
    | .ok cached => .ok cached
    | .error .malformed => .error .jsonDecode
    | .error .digitLimit => .error (.valueError DIGIT_LIMIT)
  match ← (cached.getItem "completed").mapError .access with
  | .bool true =>
    let stdout ← (cached.getItem "stdout").mapError .access
    let report ← (cached.getItem "report").mapError .access
    match stdout, report with
    | .str stdout, .obj report => fromReport report stdout instanceId
    | _, _ => throw (.typeError "cached verification payload has invalid types")
  | _ => throw (.valueError "cached verification is not completed")

/-- `restore_cached`. -/
def restoreCached (raw instanceId diff : Text) : GradeM (Option SweBenchVerifyResult) := do
  match cachedGrade raw instanceId with
  | .error error => if error.unusable then return none else throw error
  | .ok result => do
    set (some [] : Artifacts)
    writeText "patch.diff" diff
    writeText "test_output.txt" result.stdout
    match PyJson.dump (.indented 4) (.ofOption .obj result.report) with
    | some text => writeText "report.json" text
    | none => throw (.valueError DIGIT_LIMIT)
    return some result

/-! ## What a row says -/

/-- What a completed row says about an instance. -/
structure CompletedRow where
  stdout : Text
  report : List (Text × PyJson)
  instanceReport : List (Text × PyJson)
  resolved : Bool

namespace CompletedRow

variable {row row' : CompletedRow} {raw instanceId diff : Text}

/-- The text of the row says so. -/
structure In (row : CompletedRow) (raw instanceId : Text) : Prop where
  cached : ∃ cached, PyJson.loads raw = .ok (.obj cached) ∧
    PyJson.get? (ofString "completed") cached = some (.bool true) ∧
    PyJson.get? (ofString "stdout") cached = some (.str row.stdout) ∧
    PyJson.get? (ofString "report") cached = some (.obj row.report)
  instanceReport : PyJson.get? instanceId row.report = some (.obj row.instanceReport)
  resolved : PyJson.get? (ofString "resolved") row.instanceReport = some (.bool row.resolved)

/-- The status of the tests; a report without it has no tests. -/
def testsStatus (row : CompletedRow) : PyJson :=
  (PyJson.get? (ofString "tests_status") row.instanceReport).getD (.obj [])

/-- The tests of a kind with an outcome, unless something on the way to them is no object. -/
def tests? (row : CompletedRow) (kind outcome : String) : Option PyJson :=
  match row.testsStatus with
  | .obj status =>
    match (PyJson.get? (ofString kind) status).getD (.obj []) with
    | .obj outcomes => some ((PyJson.get? (ofString outcome) outcomes).getD (.arr []))
    | _ => none
  | _ => none

/-- The grade, with the numbers of tests. -/
def grade (row : CompletedRow) (failToPassPassed passToPassFailed : ℕ) : SweBenchVerifyResult where
  completed := true
  stdout := row.stdout
  passed := some row.resolved
  report := some row.report
  failToPassPassed := some failToPassPassed
  passToPassFailed := some passToPassFailed

/-- A grade that agrees with the row. -/
def Grades (row : CompletedRow) (result : SweBenchVerifyResult) : Prop :=
  ∃ passed failed n m, row.tests? "FAIL_TO_PASS" "success" = some passed ∧ passed.len = .ok n ∧
    row.tests? "PASS_TO_PASS" "failure" = some failed ∧ failed.len = .ok m ∧ result = row.grade n m

theorem In.unique (h : row.In raw instanceId) (h' : row'.In raw instanceId) : row = row' := by
  obtain ⟨stdout, report, instanceReport, resolved⟩ := row
  obtain ⟨stdout', report', instanceReport', resolved'⟩ := row'
  obtain ⟨cached, hloads, -, hstdout, hreport⟩ := h.cached
  obtain ⟨cached', hloads', -, hstdout', hreport'⟩ := h'.cached
  obtain rfl := PyJson.obj.inj (Except.ok.inj (hloads.symm.trans hloads'))
  obtain rfl := PyJson.str.inj (Option.some.inj (hstdout.symm.trans hstdout'))
  obtain rfl := PyJson.obj.inj (Option.some.inj (hreport.symm.trans hreport'))
  obtain rfl := PyJson.obj.inj (Option.some.inj (h.instanceReport.symm.trans h'.instanceReport))
  obtain rfl := PyJson.bool.inj (Option.some.inj (h.resolved.symm.trans h'.resolved))
  rfl

end CompletedRow

theorem testCount_of_tests? {row : CompletedRow} {kind outcome : String} {tests : PyJson}
    (h : row.tests? kind outcome = some tests) :
    testCount row.testsStatus kind outcome = tests.len := by
  rw [CompletedRow.tests?] at h
  split at h
  · next status hstatus =>
    split at h
    · next outcomes houtcomes =>
      obtain rfl := Option.some.inj h
      rw [testCount, hstatus, PyJson.getOr, ok_bind, houtcomes, PyJson.getOr, ok_bind]
    · cases h
  · cases h

theorem testCount_of_tests?_none {row : CompletedRow} {kind outcome : String}
    (h : row.tests? kind outcome = none) :
    ∃ text, testCount row.testsStatus kind outcome = .error (.attributeError text) := by
  rw [CompletedRow.tests?] at h
  rw [testCount]
  split at h
  · next status hstatus =>
    rw [hstatus, PyJson.getOr, ok_bind]
    split at h
    · cases h
    · next hnot =>
      rcases hkind : (PyJson.get? (ofString kind) status).getD (.obj []) with
        _ | _ | _ | _ | _ | _ | _ | outcomes
      case obj => exact absurd hkind (hnot outcomes)
      all_goals exact ⟨_, rfl⟩
  · next hnot =>
    rcases hstatus : row.testsStatus with _ | _ | _ | _ | _ | _ | _ | status
    case obj => exact absurd hstatus (hnot status)
    all_goals exact ⟨_, rfl⟩

theorem fromReport_of_row {row : CompletedRow} {raw instanceId : Text} (h : row.In raw instanceId) :
    fromReport row.report row.stdout instanceId = (do
      let failToPassPassed ← (testCount row.testsStatus "FAIL_TO_PASS" "success").mapError .access
      let passToPassFailed ← (testCount row.testsStatus "PASS_TO_PASS" "failure").mapError .access
      return row.grade failToPassPassed passToPassFailed) := by
  rw [fromReport, h.instanceReport]
  dsimp only
  rw [h.resolved]
  rfl

theorem cachedGrade_of_row {row : CompletedRow} {raw instanceId : Text} (h : row.In raw instanceId) :
    cachedGrade raw instanceId = fromReport row.report row.stdout instanceId := by
  obtain ⟨cached, hloads, hcompleted, hstdout, hreport⟩ := h.cached
  have hitem (key : String) (value : PyJson) (hkey : PyJson.get? (ofString key) cached = some value) :
      ((PyJson.obj cached).getItem key).mapError GradeError.access = .ok value := by
    rw [PyJson.getItem, hkey]
    rfl
  rw [cachedGrade, hloads]
  dsimp only
  rw [ok_bind, hitem _ _ hcompleted, ok_bind]
  dsimp only
  rw [hitem _ _ hstdout, ok_bind, hitem _ _ hreport, ok_bind]

/-! ## Unusable rows -/

theorem getItem_unusable {value : PyJson} {key : String} {error : PyJson.AccessError}
    (h : value.getItem key = .error error) : (GradeError.access error).unusable = true := by
  cases value with
  | obj members =>
    rw [PyJson.getItem] at h
    split at h
    · cases h
    · obtain rfl := Except.error.inj h
      rfl
  | null | bool _ | int _ | float _ | const _ | str _ | arr _ =>
    obtain rfl := Except.error.inj h
    rfl

theorem getItem_eq_ok {value item : PyJson} {key : String} (h : value.getItem key = .ok item) :
    ∃ members, value = .obj members ∧ PyJson.get? (ofString key) members = some item := by
  cases value with
  | obj members =>
    rw [PyJson.getItem] at h
    split at h
    · next hkey =>
      obtain rfl := Except.ok.inj h
      exact ⟨members, rfl, hkey⟩
    · cases h
  | null | bool _ | int _ | float _ | const _ | str _ | arr _ => cases h

theorem fromReport_unusable {report : List (Text × PyJson)} {instanceId : Text} (stdout : Text)
    (h : ∀ instanceReport resolved, PyJson.get? instanceId report = some (.obj instanceReport) →
      PyJson.get? (ofString "resolved") instanceReport ≠ some (.bool resolved)) :
    ∃ error, fromReport report stdout instanceId = .error error ∧ error.unusable = true := by
  rw [fromReport]
  split
  · next instanceReport hinstance =>
    split
    · next resolved hresolved => exact absurd hresolved (h instanceReport resolved hinstance)
    · exact ⟨_, rfl, rfl⟩
  · exact ⟨_, rfl, rfl⟩

/-- A row that says nothing about the instance is unusable, whatever its shape. -/
theorem cachedGrade_unusable {raw instanceId : Text} (h : ∀ row : CompletedRow, ¬row.In raw instanceId) :
    ∃ error, cachedGrade raw instanceId = .error error ∧ error.unusable = true := by
  rw [cachedGrade]
  rcases hloads : PyJson.loads raw with (_ | _) | cached
  · exact ⟨_, rfl, rfl⟩
  · exact ⟨_, rfl, rfl⟩
  dsimp only
  rw [ok_bind]
  rcases hcompleted : cached.getItem "completed" with error | completed
  · exact ⟨_, rfl, getItem_unusable hcompleted⟩
  obtain ⟨members, rfl, hcompletedKey⟩ := getItem_eq_ok hcompleted
  rw [Except.mapError, ok_bind]
  split
  · rcases hstdout : (PyJson.obj members).getItem "stdout" with error | stdout
    · exact ⟨_, rfl, getItem_unusable hstdout⟩
    rcases hreport : (PyJson.obj members).getItem "report" with error | report
    · exact ⟨_, rfl, getItem_unusable hreport⟩
    obtain ⟨_, hmembers, hstdoutKey⟩ := getItem_eq_ok hstdout
    obtain rfl := PyJson.obj.inj hmembers
    obtain ⟨_, hmembers, hreportKey⟩ := getItem_eq_ok hreport
    obtain rfl := PyJson.obj.inj hmembers
    rw [Except.mapError, ok_bind, Except.mapError, ok_bind]
    split
    · rename_i output reported
      refine fromReport_unusable output fun instanceReport resolved hinstance hresolved ↦ ?_
      exact h ⟨output, reported, instanceReport, resolved⟩
        ⟨⟨members, hloads, hcompletedKey, hstdoutKey, hreportKey⟩, hinstance, hresolved⟩
    · exact ⟨_, rfl, rfl⟩
  · exact ⟨_, rfl, rfl⟩

/-! ## Misses -/

/-- The value has a length. -/
def Sized (value : PyJson) : Prop := ∃ n, value.len = .ok n

/-- Whenever the row is a completed one with a verdict on the instance, the status of its tests is an
object, down to the lists of tests, and the texts of the grade can be written. -/
def RestoreSafe (raw instanceId diff : Text) : Prop :=
  ∀ row : CompletedRow, row.In raw instanceId →
    ∃ passed, row.tests? "FAIL_TO_PASS" "success" = some passed ∧ (Sized passed →
      ∃ failed, row.tests? "PASS_TO_PASS" "failure" = some failed ∧ (Sized failed →
        encodable row.stdout = true ∧ encodable diff = true))

/-- A grade that agrees with the row, with its artifacts, or a miss that leaves the artifacts alone. -/
def Restored (raw instanceId diff : Text) (before : Artifacts) :
    Option SweBenchVerifyResult → Artifacts → Prop
  | none, left => left = before
  | some result, left => ∃ row : CompletedRow, row.In raw instanceId ∧ row.Grades result ∧
      ∃ text, PyJson.dump (.indented 4) (.obj row.report) = some text ∧
        left = some [("report.json", text), ("test_output.txt", row.stdout), ("patch.diff", diff)]

theorem wp_writeText {name : String} {text : Text} {Q : Unit → Artifacts → Prop}
    {E : GradeError → Artifacts → Prop} {artifacts : Artifacts} (h : encodable text = true) :
    wp (writeText name text) Q E artifacts ↔
      Q () (some ((name, text) :: (artifacts.getD []).filter (·.1 ≠ name))) := by
  rw [writeText, if_pos h]
  exact wp_modify

theorem wp_writeText_surrogate {name : String} {text : Text} {Q : Unit → Artifacts → Prop}
    {artifacts : Artifacts} (h : ¬encodable text = true) :
    ¬wp (writeText name text) Q (fun _ _ ↦ False) artifacts := by
  rw [writeText, if_neg h, wp_bind, wp_modify]
  exact id

theorem encodable_dump {layout : PyJson.Layout} {value : PyJson} {text : Text}
    (h : PyJson.dump layout value = some text) : encodable text = true := by
  obtain ⟨-, rfl⟩ := PyJson.dump_eq_some.mp h
  rw [encodable, PyJson.dumps, List.all_map]
  exact List.all_eq_true.mpr fun _ _ ↦ rfl

theorem len_eq_error {value : PyJson} {error : PyJson.AccessError} (h : value.len = .error error) :
    (GradeError.access error).unusable = true := by
  cases value with
  | str _ | arr _ | obj _ => cases h
  | null | bool _ | int _ | float _ | const _ =>
    obtain rfl := Except.error.inj h
    rfl

section Restore

variable {raw instanceId diff : Text} {row : CompletedRow} {artifacts : Artifacts}

theorem restoreCached_unusable {error : GradeError} (h : cachedGrade raw instanceId = .error error)
    (herror : error.unusable = true) :
    wp (restoreCached raw instanceId diff) (Restored raw instanceId diff artifacts) (fun _ _ ↦ False)
      artifacts := by
  rw [restoreCached, h]
  dsimp only
  rw [if_pos herror]
  exact wp_pure.mpr rfl

theorem restoreCached_raises {error : GradeError} (h : cachedGrade raw instanceId = .error error)
    (herror : error.unusable = false) {Q : Option SweBenchVerifyResult → Artifacts → Prop} :
    ¬wp (restoreCached raw instanceId diff) Q (fun _ _ ↦ False) artifacts := by
  rw [restoreCached, h]
  dsimp only
  rw [herror]
  exact id

/-- The report of a row that was loaded is written again. -/
theorem dump_report (h : row.In raw instanceId) :
    ∃ text, PyJson.dump (.indented 4) (.obj row.report) = some text := by
  obtain ⟨cached, hloads, -, -, hreport⟩ := h.cached
  have hwritable := PyJson.writable_of_loads hloads
  exact ⟨_, PyJson.dump_eq_some.mpr
    ⟨PyJson.writable_obj.mp hwritable _ (PyJson.mem_of_get? hreport), rfl⟩⟩

/-- A grade that was read is returned if its texts can be written. -/
theorem restoreCached_grade (hrow : row.In raw instanceId) {n m : ℕ}
    (h : cachedGrade raw instanceId = .ok (row.grade n m)) (hgrades : row.Grades (row.grade n m)) :
    wp (restoreCached raw instanceId diff) (Restored raw instanceId diff artifacts) (fun _ _ ↦ False)
      artifacts ↔ encodable row.stdout = true ∧ encodable diff = true := by
  obtain ⟨text, htext⟩ := dump_report hrow
  rw [restoreCached, h]
  dsimp only
  rw [wp_bind, wp_set, wp_bind]
  by_cases hdiff : encodable diff = true
  · rw [wp_writeText hdiff, wp_bind, and_iff_left hdiff]
    by_cases hstdout : encodable row.stdout = true
    · rw [CompletedRow.grade, wp_writeText hstdout, PyJson.ofOption, htext]
      dsimp only
      rw [wp_bind, wp_writeText (encodable_dump htext)]
      exact iff_of_true ⟨row, hrow, hgrades, text, htext, rfl⟩ hstdout
    · exact iff_of_false (wp_writeText_surrogate hstdout) hstdout
  · exact iff_of_false (wp_writeText_surrogate hdiff) fun h ↦ hdiff h.2

/-- What `restore_cached` makes of a completed row, and when it raises. -/
theorem restoreCached_row (hrow : row.In raw instanceId) :
    wp (restoreCached raw instanceId diff) (Restored raw instanceId diff artifacts) (fun _ _ ↦ False)
      artifacts ↔
    ∃ passed, row.tests? "FAIL_TO_PASS" "success" = some passed ∧ (Sized passed →
      ∃ failed, row.tests? "PASS_TO_PASS" "failure" = some failed ∧ (Sized failed →
        encodable row.stdout = true ∧ encodable diff = true)) := by
  have hcached := (cachedGrade_of_row hrow).trans (fromReport_of_row hrow)
  rcases hpassed : row.tests? "FAIL_TO_PASS" "success" with _ | passed
  · obtain ⟨text, hcount⟩ := testCount_of_tests?_none hpassed
    rw [hcount] at hcached
    exact iff_of_false (restoreCached_raises hcached rfl) (by rintro ⟨_, ⟨⟩, _⟩)
  rw [testCount_of_tests? hpassed] at hcached
  rcases hn : passed.len with error | n
  · rw [hn] at hcached
    refine iff_of_true (restoreCached_unusable hcached (len_eq_error hn)) ⟨passed, rfl, ?_⟩
    rintro ⟨n, hn'⟩
    cases hn.symm.trans hn'
  rw [hn] at hcached
  rcases hfailed : row.tests? "PASS_TO_PASS" "failure" with _ | failed
  · obtain ⟨text, hcount⟩ := testCount_of_tests?_none hfailed
    rw [hcount] at hcached
    refine iff_of_false (restoreCached_raises hcached rfl) ?_
    rintro ⟨_, hsome, hall⟩
    obtain rfl := Option.some.inj hsome
    obtain ⟨_, ⟨⟩, _⟩ := hall ⟨n, hn⟩
  rw [testCount_of_tests? hfailed] at hcached
  rcases hm : failed.len with error | m
  · rw [hm] at hcached
    refine iff_of_true (restoreCached_unusable hcached (len_eq_error hm)) ⟨passed, rfl, fun _ ↦ ?_⟩
    refine ⟨failed, rfl, ?_⟩
    rintro ⟨m, hm'⟩
    cases hm.symm.trans hm'
  rw [hm] at hcached
  rw [restoreCached_grade hrow hcached ⟨passed, failed, n, m, hpassed, hn, hfailed, hm, rfl⟩]
  constructor
  · exact fun h ↦ ⟨passed, rfl, fun _ ↦ ⟨failed, rfl, fun _ ↦ h⟩⟩
  · rintro ⟨_, hsome, hall⟩
    obtain rfl := Option.some.inj hsome
    obtain ⟨_, hsome, hall⟩ := hall ⟨n, hn⟩
    obtain rfl := Option.some.inj hsome
    exact hall ⟨m, hm⟩

end Restore

/-- **A row is a grade or a miss exactly if what it says of the tests has the right shape**, and the
texts of a grade can be written. -/
theorem restoreCached_miss_iff (raw instanceId diff : Text) (artifacts : Artifacts) :
    wp (restoreCached raw instanceId diff) (Restored raw instanceId diff artifacts) (fun _ _ ↦ False)
      artifacts ↔ RestoreSafe raw instanceId diff := by
  by_cases h : ∃ row : CompletedRow, row.In raw instanceId
  · obtain ⟨row, hrow⟩ := h
    rw [restoreCached_row hrow]
    constructor
    · intro hsafe row' hrow'
      rwa [hrow'.unique hrow]
    · exact fun hsafe ↦ hsafe row hrow
  · push Not at h
    obtain ⟨error, hcached, herror⟩ := cachedGrade_unusable h
    exact iff_of_true (restoreCached_unusable hcached herror) fun row hrow ↦ absurd hrow (h row)

/-- A row of the instance `a`, whose output is `o`, with a status of its tests. -/
def rowOf (stdout : Text) (testsStatus : PyJson) : PyJson := .obj [
  (ofString "completed", .bool true), (ofString "stdout", .str stdout),
  (ofString "report", .obj [(ofString "a", .obj [
    (ofString "resolved", .bool true), (ofString "tests_status", testsStatus)])])]

theorem tidy_rowOf {stdout : Text} {testsStatus : PyJson} (hstdout : PyJson.NoPair stdout)
    (hstatus : PyJson.Tidy testsStatus) : PyJson.Tidy (rowOf stdout testsStatus) := by
  have hname (s : String) : PyJson.NoPair (ofString s) := PyJson.noPair_ofString s
  have hrow : (["completed", "stdout", "report"].map ofString).Nodup :=
    List.Nodup.map ofString_injective (by decide)
  have hinstance : (["resolved", "tests_status"].map ofString).Nodup :=
    List.Nodup.map ofString_injective (by decide)
  exact ⟨hrow, ⟨hname _, trivial⟩, ⟨hname _, hstdout⟩, ⟨hname _, List.nodup_singleton _, ⟨hname _,
    hinstance, ⟨hname _, trivial⟩, ⟨hname _, hstatus⟩, trivial⟩, trivial⟩, trivial⟩

/-- What such a row says. -/
def rowOfCompleted (stdout : Text) (testsStatus : PyJson) : CompletedRow where
  stdout := stdout
  report := [(ofString "a", .obj [(ofString "resolved", .bool true),
    (ofString "tests_status", testsStatus)])]
  instanceReport := [(ofString "resolved", .bool true), (ofString "tests_status", testsStatus)]
  resolved := true

theorem rowOf_in {stdout : Text} {testsStatus : PyJson} (hstdout : PyJson.NoPair stdout)
    (hstatus : PyJson.Tidy testsStatus) : (rowOfCompleted stdout testsStatus).In
      (PyJson.dumps .compact (rowOf stdout testsStatus)) (ofString "a") where
  cached := by
    refine ⟨_, PyJson.loads_dumps (tidy_rowOf hstdout hstatus) _, ?_, ?_, ?_⟩
    · simp [PyJson.get?_ofString_cons]
    · simp [PyJson.get?_ofString_cons, rowOfCompleted]
    · simp [PyJson.get?_ofString_cons, rowOfCompleted]
  instanceReport := by simp [PyJson.get?_ofString_cons, rowOfCompleted]
  resolved := by simp [PyJson.get?_ofString_cons, rowOfCompleted]

/-- The status of the tests is a list: walking over it raises an `AttributeError`. -/
theorem list_status_raises : ¬∀ raw : Text,
    wp (restoreCached raw (ofString "a") []) (Restored raw (ofString "a") [] none) (fun _ _ ↦ False)
      none := by
  intro h
  have hrow := @rowOf_in [] (.arr []) (PyJson.noPair_of_encodable rfl) trivial
  obtain ⟨passed, hpassed, -⟩ := (restoreCached_row hrow).mp (h _)
  have hnone : (rowOfCompleted [] (.arr [])).tests? "FAIL_TO_PASS" "success" = none := by
    simp [CompletedRow.tests?, CompletedRow.testsStatus, rowOfCompleted, PyJson.get?_ofString_cons]
  cases hnone.symm.trans hpassed

/-! ## The official evaluation -/

/-- What `_run_official_eval` returns, and the files of the instance, if their directory is there. -/
structure OfficialRun where
  completed : Bool
  /-- The result as a text. -/
  described : String
  instanceDir : Option (List (String × String))

/-- `verify`, of an evaluation that depends on nothing but the instance and the patch. -/
def verify (runOfficialEval : String → String → Except GradeError OfficialRun)
    (instanceId patch : String) : GradeM SweBenchVerifyResult := do
  set (none : Artifacts)
  match runOfficialEval instanceId patch with
  | .error error => throw error
  | .ok run =>
    if run.completed = true ∧ run.instanceDir = none then
      throw (.verifierCorrupt (ofString ("official SWE-bench artifact dir missing for " ++ instanceId)))
    else do
      set (run.instanceDir.map (·.map fun file ↦ (file.1, ofString file.2)) : Artifacts)
      if run.completed then
        match (run.instanceDir.getD []).lookup "report.json",
            (run.instanceDir.getD []).lookup "test_output.txt" with
        | none, _ => throw (.verifierCorrupt (ofString (
            "official SWE-bench report missing for " ++ instanceId)))
        | some _, none => throw (.verifierCorrupt (ofString (
            "official SWE-bench test output missing for " ++ instanceId)))
        | some reportText, some stdout =>
          match PyJson.loads (ofString reportText) with
          | .ok (.obj report) =>
            match fromReport report (ofString stdout) (ofString instanceId) with
            | .ok result => return result
            | .error error => throw error
          | .ok value => throw (.access (.attributeError
              s!"'{PyJson.typeName value}' object has no attribute 'get'"))
          | .error .malformed => throw .jsonDecode
          | .error .digitLimit => throw (.valueError DIGIT_LIMIT)
      else return {
        completed := false
        error := some (ofString ("official SWE-bench evaluation did not complete for " ++ instanceId ++
          ": " ++ run.described)) }

/-- A deterministic grader.  Its completed grades are read off reports, which were read from a text. -/
structure Grader where
  grade : String → String → Except GradeError SweBenchVerifyResult
  artifacts : String → String → Artifacts → Artifacts
  official : ∀ instanceId patch result, grade instanceId patch = .ok result → result.completed = true →
    ∃ (reportText stdout : String) (report : List (Text × PyJson)),
      PyJson.loads (ofString reportText) = .ok (.obj report) ∧
      fromReport report (ofString stdout) (ofString instanceId) = .ok result

theorem wp_verify (runOfficialEval : String → String → Except GradeError OfficialRun)
    (instanceId patch : String) (artifacts : Artifacts) :
    wp (verify runOfficialEval instanceId patch) (fun result _ ↦ result.completed = true →
      ∃ (reportText stdout : String) (report : List (Text × PyJson)),
        PyJson.loads (ofString reportText) = .ok (.obj report) ∧
        fromReport report (ofString stdout) (ofString instanceId) = .ok result) (fun _ _ ↦ True)
      artifacts := by
  rw [verify, wp_bind, wp_set]
  split
  · trivial
  next run hrun =>
    rw [wp_ite]
    refine ⟨fun _ ↦ trivial, fun _ ↦ ?_⟩
    rw [wp_bind, wp_set, wp_ite]
    refine ⟨fun _ ↦ ?_, fun _ hcompleted ↦ absurd hcompleted Bool.false_ne_true⟩
    split
    · trivial
    · trivial
    next reportText stdout _ _ =>
      split
      · next report hreport =>
        split
        · next result hresult => exact fun _ ↦ ⟨reportText, stdout, report, hreport, hresult⟩
        · trivial
      · trivial
      · trivial
      · trivial

/-- `verify` is such a grader: it begins with an empty directory. -/
def Grader.verify (runOfficialEval : String → String → Except GradeError OfficialRun) : Grader where
  grade instanceId patch := (exec (HarnessTraining.verify runOfficialEval instanceId patch) none).1
  artifacts instanceId patch artifacts :=
    (exec (HarnessTraining.verify runOfficialEval instanceId patch) artifacts).2
  official _ patch _ hgrade :=
    wp_ok (wp_verify runOfficialEval _ patch none) (Prod.ext hgrade rfl)

theorem fromReport_eq_ok {report : List (Text × PyJson)} {stdout instanceId : Text}
    {result : SweBenchVerifyResult} (h : fromReport report stdout instanceId = .ok result) :
    result.completed = true ∧ result.stdout = stdout ∧ result.report = some report := by
  rw [fromReport] at h
  split at h
  · split at h
    · obtain ⟨passed, -, h⟩ := bind_eq_ok h
      obtain ⟨failed, -, h⟩ := bind_eq_ok h
      obtain rfl := Except.ok.inj h
      exact ⟨rfl, rfl, rfl⟩
    · cases h
  · cases h

/-- **A grade that was read off a report comes back from its row.** -/
theorem cachedGrade_cachePayload {reportText stdout : String} {report : List (Text × PyJson)}
    {instanceId : Text} {result : SweBenchVerifyResult}
    (hreport : PyJson.loads (ofString reportText) = .ok (.obj report))
    (h : fromReport report (ofString stdout) instanceId = .ok result) :
    ∃ raw, cachePayload result = .ok raw ∧ cachedGrade raw instanceId = .ok result := by
  have hname (s : String) : PyJson.NoPair (ofString s) := PyJson.noPair_ofString s
  have hnodup : (["completed", "stdout", "report"].map ofString).Nodup :=
    List.Nodup.map ofString_injective (by decide)
  have htidy : PyJson.Tidy (.obj [(ofString "completed", .bool true),
      (ofString "stdout", .str (ofString stdout)), (ofString "report", .obj report)]) :=
    ⟨hnodup, ⟨hname _, trivial⟩, ⟨hname _, hname _⟩,
      ⟨hname _, PyJson.tidy_of_loads (encodable_ofString reportText) hreport⟩, trivial⟩
  obtain ⟨-, hstdout, hresult⟩ := fromReport_eq_ok h
  refine ⟨PyJson.dumps .compact (.obj [(ofString "completed", .bool true),
    (ofString "stdout", .str (ofString stdout)), (ofString "report", .obj report)]), ?_, ?_⟩
  · rw [cachePayload, hstdout, hresult, PyJson.ofOption, PyJson.dump_eq_some.mpr ⟨htidy.writable, rfl⟩]
  · rw [cachedGrade, PyJson.loads_dumps htidy]
    simpa [PyJson.getItem, PyJson.get?_ofString_cons, Except.mapError] using h

/-- The artifacts of a grade: its patch, its test output and its report. -/
def gradeArtifacts (result : SweBenchVerifyResult) (diff report : Text) : Artifacts :=
  some [("report.json", report), ("test_output.txt", result.stdout), ("patch.diff", diff)]

theorem exec_restoreCached {raw instanceId diff text : Text} {result : SweBenchVerifyResult}
    (artifacts : Artifacts) (h : cachedGrade raw instanceId = .ok result)
    (hdiff : encodable diff = true) (hstdout : encodable result.stdout = true)
    (htext : PyJson.dump (.indented 4) (.ofOption .obj result.report) = some text) :
    exec (restoreCached raw instanceId diff) artifacts =
      (.ok (some result), gradeArtifacts result diff text) := by
  refine exec_of_wp ?_
  rw [restoreCached, h]
  dsimp only
  rw [wp_bind, wp_set, wp_bind, wp_writeText hdiff, wp_bind, wp_writeText hstdout, htext]
  dsimp only
  rw [wp_bind, wp_writeText (encodable_dump htext)]
  exact ⟨rfl, rfl⟩

theorem exec_restoreCached_unusable {raw instanceId diff : Text} {error : GradeError}
    (artifacts : Artifacts) (h : cachedGrade raw instanceId = .error error)
    (herror : error.unusable = true) :
    exec (restoreCached raw instanceId diff) artifacts = (.ok none, artifacts) := by
  refine exec_of_wp ?_
  rw [restoreCached, h]
  dsimp only
  rw [if_pos herror]
  exact ⟨rfl, rfl⟩

end HarnessTraining
