import HarnessTraining.Env.SweBenchVerify
import HarnessTraining.Library.Memo
import HarnessTraining.Library.Text
import Mathlib.Logic.Equiv.Basic

/-!
# The verify cache

`src/plugins/replay/verify_cache.py`: a grader behind a store that all rollouts share.  A call is a
program over the artifacts of its rollout; what it reads and what it writes is the store's, which may
fail.  Calls are a memo, so any number of them may run at the same time.

* `verifyCacheKey_inj` — the key tells the instance and the patch.
* `Grader.verify_cache_transparent` — every call ends as the grader would.
-/

set_option autoImplicit false

namespace HarnessTraining

open Python StateExcept

/-! ## One call -/

/-- The state of a call. -/
structure CallState where
  artifacts : Artifacts
  /-- The grader was called. -/
  live : Bool := false
  /-- The row for `cache.put`. -/
  put : Option Text := none

abbrev CallM := Prog CallState GradeError

/-- A program over the artifacts. -/
def onArtifacts {α : Type} (m : GradeM α) : CallM α := ExceptT.mk fun s ↦
  ((exec m s.artifacts).1, { s with artifacts := (exec m s.artifacts).2 })

theorem wp_onArtifacts {α : Type} {m : GradeM α} {Q : α → CallState → Prop}
    {E : GradeError → CallState → Prop} {s : CallState} : wp (onArtifacts m) Q E s ↔
      wp m (fun a artifacts ↦ Q a { s with artifacts := artifacts })
        (fun error artifacts ↦ E error { s with artifacts := artifacts }) s.artifacts := by
  have hexec : exec (onArtifacts m) s =
      ((exec m s.artifacts).1, { s with artifacts := (exec m s.artifacts).2 }) := rfl
  rw [wp, wp, hexec]
  rcases exec m s.artifacts with ⟨_ | _, artifacts⟩ <;> rfl

/-- The grader, called. -/
def Grader.run (grader : Grader) (instanceId patch : String) : GradeM SweBenchVerifyResult := do
  modify (grader.artifacts instanceId patch)
  match grader.grade instanceId patch with
  | .ok result => return result
  | .error error => throw error

/-- What `cache_wrapper` does without a usable row. -/
def gradeLive (grader : Grader) (instanceId patch : String) : CallM SweBenchVerifyResult := do
  modify fun s ↦ { s with live := true }
  let result ← onArtifacts (grader.run instanceId patch)
  if result.completed then
    match cachePayload result with
    | .ok payload =>
      modify fun s ↦ { s with put := some payload }
      return result
    | .error error => throw error
  else return result

/-- `cache_wrapper`, of a grader, after `cache.get`. -/
def cacheWrapper (grader : Grader) (raw : Option Text) (instanceId patch : String) :
    CallM SweBenchVerifyResult := do
  match raw with
  | some raw =>
    match ← onArtifacts (restoreCached raw (ofString instanceId) (ofString patch)) with
    | some restored => return restored
    | none => gradeLive grader instanceId patch
  | none => gradeLive grader instanceId patch

/-! ## Keys -/

/-- The text has no NUL. -/
def NulFree (text : String) : Prop := '\x00' ∉ text.toList

instance (text : String) : Decidable (NulFree text) := inferInstanceAs (Decidable (_ ∉ _))

theorem nul_notMem_ofString {text : String} (h : NulFree text) :
    CodePoint.scalar '\x00' ∉ ofString text := by
  rw [ofString, List.mem_map]
  rintro ⟨c, hc, heq⟩
  exact h (scalar_injective heq ▸ hc)

/-- **The key tells the instance and the patch.** -/
theorem verifyCacheKey_inj {sha256 : Text → Text} (hinjective : Function.Injective sha256)
    {swebenchVersion instanceId instanceId' patch patch' : String} (hid : NulFree instanceId)
    (hid' : NulFree instanceId')
    (h : verifyCacheKey sha256 swebenchVersion (ofString instanceId) (ofString patch) =
      verifyCacheKey sha256 swebenchVersion (ofString instanceId') (ofString patch')) :
    instanceId = instanceId' ∧ patch = patch' := by
  have htext := hinjective (List.append_cancel_left h)
  rw [List.append_assoc, List.append_assoc, List.append_assoc, List.append_assoc] at htext
  obtain ⟨hinstance, hpatch⟩ := Text.append_cons_inj (nul_notMem_ofString hid)
    (nul_notMem_ofString hid') (List.append_cancel_left htext)
  exact ⟨ofString_injective hinstance, ofString_injective hpatch⟩

/-! ## Calls of the memo -/

/-- A call of the wrapped grader. -/
structure GradingCall where
  instanceId : String
  patch : String
  /-- The artifacts of its rollout before it. -/
  artifacts : Artifacts := none

/-- How a call ended. -/
structure Graded where
  result : Except GradeError SweBenchVerifyResult
  artifacts : Artifacts
  live : Bool

namespace Grader

variable (grader : Grader) (sha256 : Text → Text) (swebenchVersion : String)

/-- The wrapped grader, as a memo. -/
def memo : Memo.Wrapper GradingCall Text Text Graded where
  key call := verifyCacheKey sha256 swebenchVersion (ofString call.instanceId) (ofString call.patch)
  finish call raw :=
    let ended := exec (cacheWrapper grader raw call.instanceId call.patch) { artifacts := call.artifacts }
    (⟨ended.1, ended.2.artifacts, ended.2.live⟩, ended.2.put)

/-- The row is the payload of a completed grade, under its key. -/
def Stored (key raw : Text) : Prop :=
  ∃ (instanceId patch : String) (result : SweBenchVerifyResult), NulFree instanceId ∧
    key = verifyCacheKey sha256 swebenchVersion (ofString instanceId) (ofString patch) ∧
    grader.grade instanceId patch = .ok result ∧ result.completed = true ∧
    cachePayload result = .ok raw

/-- The row is no grade of the instance, and `restore_cached` says so. -/
def Unusable (raw : Text) (instanceId : String) : Prop :=
  ∃ error, cachedGrade raw (ofString instanceId) = .error error ∧ error.unusable = true

/-- The row is none of any instance that is graded under the key. -/
def Damaged (key raw : Text) : Prop :=
  ∀ instanceId patch, NulFree instanceId →
    key = verifyCacheKey sha256 swebenchVersion (ofString instanceId) (ofString patch) →
    Unusable raw instanceId

variable {grader sha256 swebenchVersion} {instanceId patch : String} {s : CallState}

/-- A live grade is the grader's; its row is one that it completed. -/
theorem wp_gradeLive (hput : s.put = none) :
    wp (gradeLive grader instanceId patch)
      (fun result s' ↦ grader.grade instanceId patch = .ok result ∧ s'.live = true ∧
        ∀ raw, s'.put = some raw ↔ result.completed = true ∧ cachePayload result = .ok raw)
      (fun error s' ↦ grader.grade instanceId patch = .error error ∧ s'.live = true ∧ s'.put = none)
      s := by
  rw [gradeLive, wp_bind, wp_modify, wp_bind, wp_onArtifacts, Grader.run, wp_bind, wp_modify]
  cases hgrade : grader.grade instanceId patch with
  | error error => exact ⟨rfl, rfl, hput⟩
  | ok result =>
    dsimp only
    rw [wp_pure, wp_ite]
    refine ⟨fun hcompleted ↦ ?_, fun hnot ↦ ⟨rfl, rfl, fun raw ↦ ?_⟩⟩
    · obtain ⟨reportText, stdout, report, hreport, hresult⟩ :=
        grader.official instanceId patch result hgrade hcompleted
      obtain ⟨payload, hpayload, -⟩ := cachedGrade_cachePayload hreport hresult
      rw [hpayload]
      refine ⟨rfl, rfl, fun raw ↦ ?_⟩
      rw [hpayload, and_iff_right hcompleted, Except.ok.injEq]
      exact Option.some_inj
    · refine iff_of_false (fun hraw ↦ ?_) fun h ↦ hnot h.1
      cases hput.symm.trans hraw

/-- A row that says nothing is as good as none. -/
theorem cacheWrapper_unusable {raw : Text} (h : Unusable raw instanceId)
    {Q : SweBenchVerifyResult → CallState → Prop} {E : GradeError → CallState → Prop} :
    wp (cacheWrapper grader (some raw) instanceId patch) Q E s ↔
      wp (gradeLive grader instanceId patch) Q E s := by
  obtain ⟨error, hcached, herror⟩ := h
  rw [cacheWrapper, wp_bind, wp_onArtifacts, wp_of_exec (exec_restoreCached_unusable _ hcached herror)]

/-- **A row of a completed grade gives the grade, and its artifacts.** -/
theorem exec_cacheWrapper_stored {result : SweBenchVerifyResult} {raw : Text}
    (hgrade : grader.grade instanceId patch = .ok result) (hcompleted : result.completed = true)
    (hraw : cachePayload result = .ok raw) :
    ∃ report text, result.report = some report ∧
      PyJson.dump (.indented 4) (.obj report) = some text ∧
      exec (cacheWrapper grader (some raw) instanceId patch) s =
        (.ok result, { s with artifacts := gradeArtifacts result (ofString patch) text }) := by
  obtain ⟨reportText, stdout, report, hreport, hresult⟩ :=
    grader.official instanceId patch result hgrade hcompleted
  obtain ⟨payload, hpayload, hcached⟩ := cachedGrade_cachePayload hreport hresult
  obtain rfl := Except.ok.inj (hpayload.symm.trans hraw)
  obtain ⟨-, hstdout, hfound⟩ := fromReport_eq_ok hresult
  have hdump : PyJson.dump (.indented 4) (.obj report) = some _ :=
    PyJson.dump_eq_some.mpr ⟨PyJson.writable_of_loads hreport, rfl⟩
  refine ⟨report, _, hfound, hdump, exec_of_wp ?_⟩
  rw [cacheWrapper, wp_bind, wp_onArtifacts, wp_of_exec (exec_restoreCached s.artifacts hcached
    (encodable_ofString patch) (by rw [hstdout]; exact encodable_ofString stdout)
    (by rw [hfound]; exact hdump))]
  exact ⟨rfl, rfl⟩

theorem usable_of_stored {result : SweBenchVerifyResult} {raw : Text}
    (hgrade : grader.grade instanceId patch = .ok result) (hcompleted : result.completed = true)
    (hraw : cachePayload result = .ok raw) : ¬Unusable raw instanceId := by
  rintro ⟨error, herror, -⟩
  obtain ⟨reportText, stdout, report, hreport, hresult⟩ :=
    grader.official instanceId patch result hgrade hcompleted
  obtain ⟨payload, hpayload, hcached⟩ := cachedGrade_cachePayload hreport hresult
  obtain rfl := Except.ok.inj (hpayload.symm.trans hraw)
  cases hcached.symm.trans herror

/-- How a call ends: as the grader would, live just if it read nothing usable, and otherwise with the
artifacts of the grade. -/
structure Ends (grader : Grader) (call : GradingCall) (raw : Option Text) (answer : Graded) : Prop where
  result : answer.result = grader.grade call.instanceId call.patch
  live : answer.live = true ↔ ∀ found, raw = some found → Unusable found call.instanceId
  artifacts : answer.live = false → ∃ result report text, answer.result = .ok result ∧
    result.report = some report ∧ PyJson.dump (.indented 4) (.obj report) = some text ∧
    answer.artifacts = gradeArtifacts result (ofString call.patch) text

variable {call : GradingCall} {raw : Option Text}

theorem memo_live (hwp : ∀ {Q : SweBenchVerifyResult → CallState → Prop} {E : GradeError → CallState → Prop}
      {s : CallState}, wp (cacheWrapper grader raw call.instanceId call.patch) Q E s ↔
        wp (gradeLive grader call.instanceId call.patch) Q E s)
    (hraw : ∀ found, raw = some found → Unusable found call.instanceId) (hcall : NulFree call.instanceId) :
    grader.Ends call raw ((grader.memo sha256 swebenchVersion).finish call raw).1 ∧
      ∀ payload, ((grader.memo sha256 swebenchVersion).finish call raw).2 = some payload →
        grader.Stored sha256 swebenchVersion ((grader.memo sha256 swebenchVersion).key call) payload := by
  have hends := hwp.mpr (@wp_gradeLive grader call.instanceId call.patch { artifacts := call.artifacts } rfl)
  rw [wp] at hends
  dsimp only [memo]
  split at hends
  · next result s' hexec =>
    obtain ⟨hgrade, hlive, hput⟩ := hends
    rw [hexec]
    refine ⟨⟨hgrade.symm, iff_of_true hlive hraw, fun hnot ↦ absurd (hlive.symm.trans hnot) (by decide)⟩,
      fun payload hpayload ↦ ?_⟩
    obtain ⟨hcompleted, hrow⟩ := (hput payload).mp hpayload
    exact ⟨call.instanceId, call.patch, result, hcall, rfl, hgrade, hcompleted, hrow⟩
  · next error s' hexec =>
    obtain ⟨hgrade, hlive, hput⟩ := hends
    rw [hexec]
    refine ⟨⟨hgrade.symm, iff_of_true hlive hraw, fun hnot ↦ absurd (hlive.symm.trans hnot) (by decide)⟩,
      fun payload hpayload ↦ ?_⟩
    cases hput.symm.trans hpayload

theorem memo_ends (hinjective : Function.Injective sha256) (hcall : NulFree call.instanceId)
    (hraw : ∀ found, raw = some found →
      grader.Stored sha256 swebenchVersion ((grader.memo sha256 swebenchVersion).key call) found ∨
        Damaged sha256 swebenchVersion ((grader.memo sha256 swebenchVersion).key call) found) :
    grader.Ends call raw ((grader.memo sha256 swebenchVersion).finish call raw).1 ∧
      ∀ payload, ((grader.memo sha256 swebenchVersion).finish call raw).2 = some payload →
        grader.Stored sha256 swebenchVersion ((grader.memo sha256 swebenchVersion).key call) payload := by
  cases raw with
  | none => exact memo_live Iff.rfl (by rintro _ ⟨⟩) hcall
  | some found =>
    rcases hraw found rfl with ⟨instanceId, patch, result, hid, hkey, hgrade, hcompleted, hrow⟩ | hdamaged
    · obtain ⟨hinstance, hpatch⟩ := verifyCacheKey_inj hinjective hcall hid hkey
      subst hinstance hpatch
      obtain ⟨report, text, hreport, htext, hexec⟩ :=
        @exec_cacheWrapper_stored grader call.instanceId call.patch { artifacts := call.artifacts } result
          found hgrade hcompleted hrow
      dsimp only [memo]
      rw [hexec]
      refine ⟨⟨hgrade.symm, iff_of_false Bool.false_ne_true fun hall ↦ ?_, fun _ ↦
        ⟨result, report, text, rfl, hreport, htext, rfl⟩⟩, by rintro _ ⟨⟩⟩
      exact usable_of_stored hgrade hcompleted hrow (hall found rfl)
    · have hunusable := hdamaged call.instanceId call.patch hcall rfl
      refine memo_live (cacheWrapper_unusable hunusable) (fun found' hfound ↦ ?_) hcall
      exact Option.some.inj hfound ▸ hunusable

/-! ## Runs -/

/-- What holds after some calls, over a store that held some rows. -/
structure Transparent (grader : Grader) (sha256 : Text → Text) (swebenchVersion : String)
    (rows : Text → Option Text) (s : Memo.State GradingCall Text Text Graded) : Prop where
  ends : ∀ id call raw answer, s.phases id = .finished call raw answer → grader.Ends call raw answer
  /-- A call reads what the store has, if its read works. -/
  read : ∀ id call found answer, s.phases id = .finished call (some found) answer →
    s.rows ((grader.memo sha256 swebenchVersion).key call) = some found
  /-- A call is live if the store has no usable row for it. -/
  missed : ∀ id call raw answer, s.phases id = .finished call raw answer →
    (∀ found, s.rows ((grader.memo sha256 swebenchVersion).key call) = some found →
      Unusable found call.instanceId) → answer.live = true
  stored : ∀ key raw, s.rows key = some raw →
    rows key = some raw ∨ grader.Stored sha256 swebenchVersion key raw

/-- **The verify cache is transparent**, in every order of reads, grades and writes. -/
theorem verify_cache_transparent (grader : Grader) {sha256 : Text → Text}
    (hinjective : Function.Injective sha256) (swebenchVersion : String) {rows : Text → Option Text}
    (hrows : ∀ key raw, rows key = some raw →
      grader.Stored sha256 swebenchVersion key raw ∨ Damaged sha256 swebenchVersion key raw)
    {events : List (Memo.Event GradingCall)}
    (hevents : ∀ event ∈ events, event.Calls fun call ↦ NulFree call.instanceId)
    {s : Memo.State GradingCall Text Text Graded}
    (hrun : Transitions.run (Memo.step (grader.memo sha256 swebenchVersion)) { rows := rows } events =
      some s) : grader.Transparent sha256 swebenchVersion rows s := by
  have hsound : Memo.Sound (grader.memo sha256 swebenchVersion) (fun call ↦ NulFree call.instanceId)
      (fun key raw ↦ grader.Stored sha256 swebenchVersion key raw ∨
        rows key = some raw ∧ Damaged sha256 swebenchVersion key raw) s := by
    refine Memo.run_sound (fun key raw hraw ↦ (hrows key raw hraw).imp_right fun h ↦ ⟨hraw, h⟩)
      (fun call raw hcall hraw payload hpayload ↦ Or.inl ?_) hevents hrun
    exact (memo_ends hinjective hcall fun found hfound ↦ (hraw found hfound).imp_right And.right).2
      payload hpayload
  have hends {id : ℕ} {call : GradingCall} {raw : Option Text} {answer : Graded}
      (hfinished : s.phases id = .finished call raw answer) :
      grader.Ends call raw answer ∧ Memo.Read (grader.memo sha256 swebenchVersion) s call raw := by
    obtain ⟨hcall, hread, rfl⟩ := hsound.finished id call raw answer hfinished
    refine ⟨(memo_ends hinjective hcall fun found hfound ↦ ?_).1, hread⟩
    exact (hsound.rows _ _ (hread found hfound)).imp_right And.right
  exact {
    ends := fun id call raw answer hfinished ↦ (hends hfinished).1
    read := fun id call found answer hfinished ↦ (hends hfinished).2 found rfl
    missed := fun id call raw answer hfinished hmissed ↦
      (hends hfinished).1.live.mpr fun found hfound ↦ hmissed found ((hends hfinished).2 found hfound)
    stored := fun key raw hraw ↦ (hsound.rows key raw hraw).symm.imp_left And.left }

end Grader

/-! ## A patch that is graded twice -/

/-- A grader that passes every patch. -/
def passingGrader : Grader where
  grade instanceId _ := fromReport [(ofString instanceId, .obj [(ofString "resolved", .bool true)])]
    (ofString "ok") (ofString instanceId)
  artifacts _ _ artifacts := artifacts
  official instanceId _ result hgrade _ := by
    have htidy : PyJson.Tidy (.obj [(ofString instanceId, .obj [(ofString "resolved", .bool true)])]) :=
      ⟨List.nodup_singleton _, ⟨PyJson.noPair_ofString _, List.nodup_singleton _,
        ⟨PyJson.noPair_ofString _, trivial⟩, trivial⟩, trivial⟩
    refine ⟨String.ofList (PyJson.render .compact 0
      (.obj [(ofString instanceId, .obj [(ofString "resolved", .bool true)])])), "ok", _, ?_, hgrade⟩
    rw [ofString, String.toList_ofList]
    exact PyJson.loads_dumps htidy .compact

/-- The text that is hashed for the patch `diffA` of the instance `inst`. -/
def diffAText : Text :=
  ofString (VERIFY_CACHE_SCHEMA ++ "\u0000" ++ "4.1.0" ++ "\u0000") ++ ofString "inst" ++
    ofString "\u0000" ++ ofString "diffA"

/-- A digest that is that of SHA-256 on this text. -/
def diffADigest : Text → Text :=
  Equiv.swap diffAText (ofString "c630c549327ce706865cbd71a2dfc9f82f7ba2e2cf826520ca096f02d813bcc3")

/-- A call of it. -/
def diffACall : GradingCall := ⟨"inst", "diffA", none⟩

/-- What is put for the patch is of use. -/
theorem put_diffA : ∃ payload,
    ((passingGrader.memo diffADigest "4.1.0").finish diffACall none).2 = some payload ∧
      ¬Grader.Unusable payload "inst" := by
  have hgrade : passingGrader.grade "inst" "diffA" = .ok ⟨true, ofString "ok", some true,
      some [(ofString "inst", .obj [(ofString "resolved", .bool true)])], none, some 0, some 0⟩ := rfl
  obtain ⟨reportText, stdout, report, hreport, hresult⟩ :=
    passingGrader.official "inst" "diffA" _ hgrade rfl
  obtain ⟨payload, hpayload, hcached⟩ := cachedGrade_cachePayload hreport hresult
  have hends := @Grader.wp_gradeLive passingGrader "inst" "diffA" { artifacts := none } rfl
  rw [wp] at hends
  refine ⟨payload, ?_, by rintro ⟨error, herror, -⟩; cases hcached.symm.trans herror⟩
  change (exec (gradeLive passingGrader "inst" "diffA") { artifacts := none }).2.put = some payload
  split at hends
  · next result s' hexec =>
    obtain ⟨hfound, -, hput⟩ := hends
    obtain rfl := Except.ok.inj (hgrade.symm.trans hfound)
    rw [hexec]
    exact (hput payload).mpr ⟨rfl, hpayload⟩
  · next error s' hexec => cases hgrade.symm.trans hends.1

/-- The second call is served. -/
theorem verify_cache_transparent_diffA : ∃ s,
    Transitions.run (Memo.step (passingGrader.memo diffADigest "4.1.0")) {}
      [.read 0 diffACall true, .finish 0, .write 0, .read 1 diffACall true, .finish 1] = some s ∧
    (∃ found answer, s.phases 1 = .finished diffACall (some found) answer ∧ answer.live = false) ∧
    passingGrader.Transparent diffADigest "4.1.0" (fun _ ↦ none) s := by
  obtain ⟨payload, hput, husable⟩ := put_diffA
  obtain ⟨s, hrun, answer, hanswer⟩ : ∃ s,
      Transitions.run (Memo.step (passingGrader.memo diffADigest "4.1.0")) {}
        [.read 0 diffACall true, .finish 0, .write 0, .read 1 diffACall true, .finish 1] = some s ∧
      ∃ answer, s.phases 1 = .finished diffACall (some payload) answer := by
    simp [Transitions.run_cons, Memo.step, hput]
  have htransparent := Grader.verify_cache_transparent passingGrader (Equiv.injective _) "4.1.0"
    (by rintro _ _ ⟨⟩) (by simp +decide [Memo.Event.Calls]) hrun
  refine ⟨s, hrun, ⟨payload, answer, hanswer, ?_⟩, htransparent⟩
  rw [← Bool.not_eq_true, (htransparent.ends 1 _ _ _ hanswer).live]
  exact fun hall ↦ husable (hall payload rfl)

end HarnessTraining
