import HarnessTraining.Config
import HarnessTraining.Library.Regex
import HarnessTraining.Library.Text
import HarnessTraining.Replay.Keys
import HarnessTraining.Rollout.Store

/-!
# Measurement identity

`resolve_measurement_identity` of `src/rollout/certification.py`, with the fingerprints of
`src/rollout/execution.py` and `src/plugins/replay`: how a run was measured is a digest of its
configuration, the revision of its provider and one line for each of its tasks.

* `line_inj` — a line tells its task and the scope of the task;
* `digest_inj` — two digests agree when configurations, revisions and lines do;
* `identity_separates` — two digests agree when exactly what is measured agrees.
-/

set_option autoImplicit false

namespace HarnessTraining

/-! ## The execution regime -/

/-- `_CACHE_SCHEMA`. -/
def CACHE_SCHEMA : String := "step-result-v3-metrics"

/-- `namespace_for`. -/
def namespaceFor (contentId : Option String) : Option String :=
  contentId.map fun id ↦ CACHE_SCHEMA ++ ":" ++ id

/-- `_TERMINAL_BENCH_REPO_REF`. -/
def TERMINAL_BENCH_REPO_REF : String := "2fd12b88aafdd04a52c298e3940bcb189f9766d6"

/-- `_LIVE_ONLY_TASK_NAMES`. -/
def LIVE_ONLY_TASK_NAMES : List TaskId := ["portfolio-optimization"]

/-- What the environments take their fingerprints of. -/
structure DeterminismPayloads where
  swe : String
  terminalBench : String

/-- `EagerExecution`, or `ReplayExecution` with the epoch counters of the store. -/
inductive Execution where
  | eager
  | replay (payloads : DeterminismPayloads) (epoch : String → ℤ)

section Regime

variable (hexdigest : Hexdigest)

/-- The first twelve digits of a digest. -/
def shortDigest (text : String) : String := String.ofList ((hexdigest.digest text).toList.take 12)

/-- `replay_id`. -/
def replayId (payloads : DeterminismPayloads) : EnvironmentKind → TaskId → Option String
  | .swe, _ => some (shortDigest hexdigest payloads.swe)
  | .terminalBench, task =>
    if task ∈ LIVE_ONLY_TASK_NAMES then none
    else some (TERMINAL_BENCH_REPO_REF ++ ":" ++ shortDigest hexdigest payloads.terminalBench)

/-- `TaskSet.content_id`. -/
def contentId (payloads : DeterminismPayloads) (kind : EnvironmentKind) (task : TaskId) :
    Option String :=
  (replayId hexdigest payloads kind task).map fun id ↦ kind.text ++ ":" ++ id ++ ":" ++ task

namespace Execution

/-- `resolve_scope`; nothing is replayed eagerly. -/
def scope (kind : EnvironmentKind) (task : TaskId) : Execution → Option ReplayScope
  | eager => none
  | replay payloads epoch =>
    (namespaceFor (contentId hexdigest payloads kind task)).map fun replayNamespace ↦
      ⟨replayNamespace, epoch replayNamespace⟩

/-- The line of a task. -/
def line (kind : EnvironmentKind) (execution : Execution) (task : TaskId) : List Char :=
  match execution.scope hexdigest kind task with
  | none => task.toList ++ ':' :: "live".toList
  | some scope => scope.replayNamespace.toList ++ ':' :: Json.renderInt scope.epoch

/-- `fingerprint`. -/
def fingerprint (kind : EnvironmentKind) (execution : Execution) (tasks : List TaskId) :
    List (List Char) :=
  tasks.map (execution.line hexdigest kind)

/-- The epoch of a namespace counts on. -/
def bump (replayNamespace : String) : Execution → Execution
  | eager => eager
  | replay payloads epoch => replay payloads fun replayNamespace' ↦
    if replayNamespace' = replayNamespace then epoch replayNamespace' + 1 else epoch replayNamespace'

end Execution

/-- `resolve_measurement_identity`, under the value of `FRAMEWORK_LLM_CACHE_REV`. -/
def resolveMeasurementIdentity (override : Option String) (config : RunConfig)
    (execution : Execution) : MeasurementIdentity where
  effectiveConfigDigest := hexdigest.digest (config.identityPayload
    (config.environment.taskNames.insertionSort (· ≤ ·))).dumps
  providerRevision := config.llmProviderConfig.providerRevision override
  replayRegimeDigest := hexdigest.digest (String.ofList (Regex.joinLines
    ((execution.fingerprint hexdigest config.environment.kind
      config.environment.taskNames).insertionSort (· ≤ ·))))

end Regime

/-! ## Lines -/

theorem mem_renderInt {z : ℤ} {c : Char} (h : c ∈ Json.renderInt z) :
    c = '-' ∨ Json.isDigit c = true := by
  cases z with
  | ofNat n => exact Or.inr (Json.isDigit_of_mem_decDigits h)
  | negSucc n =>
    rcases List.mem_cons.mp h with rfl | h
    · exact Or.inl rfl
    · exact Or.inr (Json.isDigit_of_mem_decDigits h)

theorem not_mem_renderInt {z : ℤ} {c : Char} (hc : c ≠ '-' ∧ Json.isDigit c = false) :
    c ∉ Json.renderInt z := by
  intro h
  rcases mem_renderInt h with rfl | h
  · exact hc.1 rfl
  · rw [hc.2] at h
    cases h

theorem renderInt_inj {z z' : ℤ} (h : Json.renderInt z = Json.renderInt z') : z = z' :=
  Json.int.inj (Json.render_injective (j := .int z) (k := .int z') (by rwa [Json.render, Json.render]))

theorem renderInt_ne_live (z : ℤ) : Json.renderInt z ≠ "live".toList := by
  intro h
  have hmem : 'l' ∈ Json.renderInt z := by rw [h]; decide
  exact not_mem_renderInt (by decide) hmem

section Lines

variable {hexdigest : Hexdigest} {payloads payloads' : DeterminismPayloads}
  {kind kind' : EnvironmentKind} {task task' : TaskId}

theorem colon_not_mem_shortDigest (text : String) : ':' ∉ (shortDigest hexdigest text).toList := by
  intro h
  rw [shortDigest, String.toList_ofList] at h
  exact absurd (hexdigest.hex text ':' (List.mem_of_mem_take h)) (by decide)

theorem newline_not_mem_shortDigest (text : String) :
    '\n' ∉ (shortDigest hexdigest text).toList := by
  intro h
  rw [shortDigest, String.toList_ofList] at h
  exact absurd (hexdigest.hex text '\n' (List.mem_of_mem_take h)) (by decide)

theorem toList_colon (first rest : String) :
    (first ++ ":" ++ rest).toList = first.toList ++ ':' :: rest.toList := by
  rw [String.toList_append, String.toList_append, List.append_assoc]
  rfl

/-- A content id tells its task. -/
theorem contentId_inj {id : String} (h : contentId hexdigest payloads kind task = some id)
    (h' : contentId hexdigest payloads' kind' task' = some id) : task = task' := by
  have hcolon : ∀ kind : EnvironmentKind, ':' ∉ kind.text.toList := by
    rintro (_ | _) <;> decide
  obtain ⟨segment, hsegment, rfl⟩ := Option.map_eq_some_iff.mp h
  obtain ⟨segment', hsegment', heq⟩ := Option.map_eq_some_iff.mp h'
  have hlist := congrArg String.toList heq
  simp only [toList_colon, List.append_assoc, List.cons_append] at hlist
  obtain ⟨hkind, hrest⟩ := Text.append_cons_inj (hcolon _) (hcolon _) hlist
  obtain rfl := EnvironmentKind.text_inj (String.toList_inj.mp hkind)
  have htask : segment'.toList = segment.toList → task = task' := by
    intro hsegment
    rw [hsegment] at hrest
    exact (String.toList_inj.mp (List.cons.inj (List.append_cancel_left hrest)).2).symm
  cases kind' with
  | swe =>
    simp only [replayId, Option.some.injEq] at hsegment hsegment'
    subst hsegment hsegment'
    exact htask (Text.append_cons_inj (colon_not_mem_shortDigest _)
      (colon_not_mem_shortDigest _) hrest).1
  | terminalBench =>
    simp only [replayId, Option.ite_none_left_eq_some, Option.some.injEq] at hsegment hsegment'
    obtain ⟨-, rfl⟩ := hsegment
    obtain ⟨-, rfl⟩ := hsegment'
    refine htask ?_
    simp only [toList_colon, List.append_assoc, List.cons_append] at hrest ⊢
    have htail := (List.cons.inj (List.append_cancel_left hrest)).2
    rw [(Text.append_cons_inj (colon_not_mem_shortDigest _) (colon_not_mem_shortDigest _)
      htail).1]

variable {execution execution' : Execution}

theorem Execution.scope_eq_some {scope : ReplayScope}
    (h : execution.scope hexdigest kind task = some scope) :
    ∃ payloads id, contentId hexdigest payloads kind task = some id ∧
      scope.replayNamespace = CACHE_SCHEMA ++ ":" ++ id := by
  cases execution with
  | eager => cases h
  | replay payloads epoch =>
    obtain ⟨replayNamespace, hnamespace, rfl⟩ := Option.map_eq_some_iff.mp h
    obtain ⟨id, hid, rfl⟩ := Option.map_eq_some_iff.mp hnamespace
    exact ⟨payloads, id, hid, rfl⟩

/-- **A line tells its task**, and the scope of the task. -/
theorem Execution.line_inj
    (h : execution.line hexdigest kind task = execution'.line hexdigest kind' task') :
    task = task' ∧ execution.scope hexdigest kind task = execution'.scope hexdigest kind' task' := by
  have hdigits (z : ℤ) : ':' ∉ Json.renderInt z := not_mem_renderInt (by decide)
  have hlive : ':' ∉ "live".toList := by decide
  unfold line at h
  cases hscope : execution.scope hexdigest kind task with
  | none =>
    cases hscope' : execution'.scope hexdigest kind' task' with
    | none =>
      rw [hscope, hscope'] at h
      exact ⟨String.toList_inj.mp (Text.append_cons_inj_last hlive hlive h).1, rfl⟩
    | some scope' =>
      rw [hscope, hscope'] at h
      exact absurd (Text.append_cons_inj_last hlive (hdigits _) h).2.symm (renderInt_ne_live _)
  | some scope =>
    cases hscope' : execution'.scope hexdigest kind' task' with
    | none =>
      rw [hscope, hscope'] at h
      exact absurd (Text.append_cons_inj_last (hdigits _) hlive h).2 (renderInt_ne_live _)
    | some scope' =>
      rw [hscope, hscope'] at h
      obtain ⟨hnamespace, hepoch⟩ := Text.append_cons_inj_last (hdigits _) (hdigits _) h
      have hscopes : scope = scope' := by
        obtain ⟨replayNamespace, epoch⟩ := scope
        obtain ⟨replayNamespace', epoch'⟩ := scope'
        rw [ReplayScope.mk.injEq]
        exact ⟨String.toList_inj.mp hnamespace, renderInt_inj hepoch⟩
      obtain ⟨payloads, id, hid, hprefixed⟩ := scope_eq_some hscope
      obtain ⟨payloads', id', hid', hprefixed'⟩ := scope_eq_some hscope'
      have hids : id = id' := by
        rw [hscopes, hprefixed'] at hprefixed
        have hlist := congrArg String.toList hprefixed
        rw [toList_colon, toList_colon] at hlist
        exact (String.toList_inj.mp (List.cons.inj (List.append_cancel_left hlist)).2).symm
      exact ⟨contentId_inj (hids ▸ hid) hid', by rw [hscopes]⟩

theorem Execution.line_congr (h : execution.scope hexdigest kind task =
    execution'.scope hexdigest kind' task) :
    execution.line hexdigest kind task = execution'.line hexdigest kind' task := by
  rw [line, line, h]

/-- The lines of a panel, up to order, are the scopes of its tasks. -/
theorem Execution.fingerprint_perm {tasks tasks' : List TaskId} (htasks : tasks.Perm tasks') :
    (execution.fingerprint hexdigest kind tasks).Perm
        (execution'.fingerprint hexdigest kind' tasks') ↔
      ∀ task ∈ tasks, execution.scope hexdigest kind task = execution'.scope hexdigest kind' task := by
  constructor
  · intro h task htask
    have hmem : execution.line hexdigest kind task ∈ execution'.fingerprint hexdigest kind' tasks' :=
      h.subset (List.mem_map_of_mem htask)
    obtain ⟨task', -, hline⟩ := List.mem_map.mp hmem
    obtain ⟨rfl, hscope⟩ := line_inj hline
    exact hscope.symm
  · intro h
    have hlines : execution.fingerprint hexdigest kind tasks =
        execution'.fingerprint hexdigest kind' tasks :=
      List.map_congr_left fun task htask ↦ line_congr (h task htask)
    rw [hlines]
    exact htasks.map _

/-! ## One line each -/

theorem newline_not_mem_contentId {id : String} (htask : '\n' ∉ task.toList)
    (h : contentId hexdigest payloads kind task = some id) : '\n' ∉ id.toList := by
  obtain ⟨segment, hsegment, rfl⟩ := Option.map_eq_some_iff.mp h
  have hkind : '\n' ∉ kind.text.toList := by
    cases kind <;> decide
  have hsegment : '\n' ∉ segment.toList := by
    cases kind with
    | swe =>
      simp only [replayId, Option.some.injEq] at hsegment
      exact hsegment ▸ newline_not_mem_shortDigest _
    | terminalBench =>
      simp only [replayId, Option.ite_none_left_eq_some, Option.some.injEq] at hsegment
      obtain ⟨-, rfl⟩ := hsegment
      rw [toList_colon]
      refine List.not_mem_append (by decide) (List.not_mem_cons_of_ne_of_not_mem (by decide) ?_)
      exact newline_not_mem_shortDigest _
  rw [toList_colon, toList_colon]
  exact List.not_mem_append (List.not_mem_append hkind
    (List.not_mem_cons_of_ne_of_not_mem (by decide) hsegment))
    (List.not_mem_cons_of_ne_of_not_mem (by decide) htask)

theorem Execution.newline_not_mem_line (htask : '\n' ∉ task.toList) :
    '\n' ∉ execution.line hexdigest kind task := by
  unfold line
  cases hscope : execution.scope hexdigest kind task with
  | none => exact List.not_mem_append htask (by decide)
  | some scope =>
    obtain ⟨payloads, id, hid, hprefixed⟩ := scope_eq_some hscope
    refine List.not_mem_append ?_
      (List.not_mem_cons_of_ne_of_not_mem (by decide) (not_mem_renderInt (by decide)))
    rw [hprefixed, toList_colon]
    exact List.not_mem_append (by decide)
      (List.not_mem_cons_of_ne_of_not_mem (by decide) (newline_not_mem_contentId htask hid))

/-- Joined and sorted lines are the lines, up to order. -/
theorem joinLines_insertionSort_inj {lines lines' : List (List Char)}
    (hlines : ∀ line ∈ lines, '\n' ∉ line) (hlines' : ∀ line ∈ lines', '\n' ∉ line)
    (hne : lines ≠ []) (hne' : lines' ≠ []) :
    Regex.joinLines (lines.insertionSort (· ≤ ·)) = Regex.joinLines (lines'.insertionSort (· ≤ ·)) ↔
      lines.Perm lines' := by
  have hperm (lines : List (List Char)) := List.perm_insertionSort (· ≤ ·) lines
  rw [← Text.insertionSort_inj]
  refine Text.intercalate_inj (fun line hline ↦ hlines line ((hperm lines).mem_iff.mp hline))
    (fun line hline ↦ hlines' line ((hperm lines').mem_iff.mp hline)) (fun h ↦ ?_) fun h ↦ ?_
  · exact hne (List.perm_nil.mp (h ▸ (hperm lines).symm))
  · exact hne' (List.perm_nil.mp (h ▸ (hperm lines').symm))

/-! ## The digest -/

theorem payload_inj {identity identity' : MeasurementIdentity}
    (h : identity.payload = identity'.payload) : identity = identity' := by
  have hnormal (identity : MeasurementIdentity) : (Json.obj [
      ("effective_config_digest", .str identity.effectiveConfigDigest),
      ("provider_revision", .str identity.providerRevision),
      ("replay_regime_digest", .str identity.replayRegimeDigest)]).normal = .obj [
      ("effective_config_digest", .str identity.effectiveConfigDigest),
      ("provider_revision", .str identity.providerRevision),
      ("replay_regime_digest", .str identity.replayRegimeDigest)] := by
    refine Json.Dictionary.normal_obj ⟨?_, ?_⟩
    · simp +decide only [List.pairwise_cons, List.forall_mem_cons, List.not_mem_nil, false_implies,
        implies_true, and_true]
    · simp only [List.forall_mem_cons, List.not_mem_nil, false_implies, implies_true, and_true]
      exact ⟨rfl, rfl, rfl⟩
  rw [MeasurementIdentity.payload, MeasurementIdentity.payload, Json.dumps_inj, hnormal,
    hnormal] at h
  obtain ⟨_, _, _⟩ := identity
  obtain ⟨_, _, _⟩ := identity'
  simp_all

variable {override override' : Option String} {config config' : RunConfig}

/-- Digests agree when exactly configurations, revisions and lines do. -/
theorem digest_inj (htasks : ∀ task ∈ config.environment.taskNames, '\n' ∉ task.toList)
    (htasks' : ∀ task ∈ config'.environment.taskNames, '\n' ∉ task.toList) :
    (resolveMeasurementIdentity hexdigest override config execution).digest hexdigest.digest =
        (resolveMeasurementIdentity hexdigest override' config' execution').digest
          hexdigest.digest ↔
      config.SameMeasured config' ∧
        config.llmProviderConfig.providerRevision override =
          config'.llmProviderConfig.providerRevision override' ∧
        ∀ task ∈ config.environment.taskNames,
          execution.scope hexdigest config.environment.kind task =
            execution'.scope hexdigest config'.environment.kind task := by
  have hlines (execution : Execution) {config : RunConfig}
      (htasks : ∀ task ∈ config.environment.taskNames, '\n' ∉ task.toList) : ∀ line ∈
      execution.fingerprint hexdigest config.environment.kind config.environment.taskNames,
        '\n' ∉ line := by
    intro line hline
    obtain ⟨task, htask, rfl⟩ := List.mem_map.mp hline
    exact Execution.newline_not_mem_line (htasks task htask)
  have hne (execution : Execution) (config : RunConfig) :
      execution.fingerprint hexdigest config.environment.kind config.environment.taskNames ≠ [] :=
    fun h ↦ config.environment.nonempty (List.map_eq_nil_iff.mp h)
  have hparts : (resolveMeasurementIdentity hexdigest override config execution).digest
        hexdigest.digest = (resolveMeasurementIdentity hexdigest override' config' execution').digest
          hexdigest.digest ↔
      config.SameMeasured config' ∧
        config.llmProviderConfig.providerRevision override =
          config'.llmProviderConfig.providerRevision override' ∧
        (execution.fingerprint hexdigest config.environment.kind config.environment.taskNames).Perm
          (execution'.fingerprint hexdigest config'.environment.kind
            config'.environment.taskNames) := by
    rw [MeasurementIdentity.digest, MeasurementIdentity.digest, hexdigest.injective.eq_iff,
      ← joinLines_insertionSort_inj (hlines execution htasks) (hlines execution' htasks')
        (hne execution config) (hne execution' config'), ← RunConfig.identityPayload_inj]
    constructor
    · intro h
      have hidentity := payload_inj h
      simp only [resolveMeasurementIdentity, MeasurementIdentity.mk.injEq,
        hexdigest.injective.eq_iff] at hidentity
      exact ⟨hidentity.1, hidentity.2.1, String.ofList_injective hidentity.2.2⟩
    · rintro ⟨hconfig, hrevision, hregime⟩
      rw [resolveMeasurementIdentity, resolveMeasurementIdentity, hconfig, hrevision, hregime]
  rw [hparts]
  refine and_congr_right fun hsame ↦ and_congr_right fun _ ↦ ?_
  exact Execution.fingerprint_perm hsame.taskNames

theorem Execution.scope_bump {scope : ReplayScope}
    (h : execution.scope hexdigest kind task = some scope) :
    (execution.bump scope.replayNamespace).scope hexdigest kind task =
      some ⟨scope.replayNamespace, scope.epoch + 1⟩ := by
  cases execution with
  | eager => cases h
  | replay payloads epoch =>
    obtain ⟨replayNamespace, hnamespace, rfl⟩ := Option.map_eq_some_iff.mp h
    rw [bump, Execution.scope, hnamespace, Option.map_some, if_pos rfl]

end Lines

/-- **An identity separates what is measured**: digests agree when exactly what is measured of the
configurations, the revisions and the scope of every task agree.  The order of the panel does not
matter, and a counted epoch does. -/
theorem identity_separates (hexdigest : Hexdigest) (override override' : Option String)
    (config config' : RunConfig) (execution execution' : Execution)
    (htasks : ∀ task ∈ config.environment.taskNames, '\n' ∉ task.toList)
    (htasks' : ∀ task ∈ config'.environment.taskNames, '\n' ∉ task.toList) :
    ((resolveMeasurementIdentity hexdigest override config execution).digest hexdigest.digest =
        (resolveMeasurementIdentity hexdigest override' config' execution').digest
          hexdigest.digest ↔
      config.SameMeasured config' ∧
        config.llmProviderConfig.providerRevision override =
          config'.llmProviderConfig.providerRevision override' ∧
        ∀ task ∈ config.environment.taskNames,
          execution.scope hexdigest config.environment.kind task =
            execution'.scope hexdigest config'.environment.kind task) ∧
    (∀ taskNames (hperm : taskNames.Perm config.environment.taskNames),
      (resolveMeasurementIdentity hexdigest override (config.withPanel taskNames hperm)
          execution).digest hexdigest.digest =
        (resolveMeasurementIdentity hexdigest override config execution).digest
          hexdigest.digest) ∧
    ∀ task ∈ config.environment.taskNames, ∀ scope,
      execution.scope hexdigest config.environment.kind task = some scope →
      (resolveMeasurementIdentity hexdigest override config
          (execution.bump scope.replayNamespace)).digest hexdigest.digest ≠
        (resolveMeasurementIdentity hexdigest override config execution).digest
          hexdigest.digest := by
  refine ⟨digest_inj htasks htasks', fun taskNames hperm ↦ ?_, fun task htask scope hscope h ↦ ?_⟩
  · refine (digest_inj (fun task htask ↦ htasks task (hperm.subset htask)) htasks).mpr ?_
    exact ⟨RunConfig.SameMeasured.withPanel config hperm, rfl, fun _ _ ↦ rfl⟩
  · have hsame := ((digest_inj htasks htasks).mp h).2.2 task htask
    rw [Execution.scope_bump hscope, hscope] at hsame
    have hepoch := congrArg ReplayScope.epoch (Option.some.inj hsame)
    exact absurd hepoch (by simp)

/-- A panel of two tasks, replayed. -/
def twoTasks : RunConfig where
  trainingTarget := { module := "src.policy.core" }
  environment := {
    kind := .swe
    taskNames := ["astropy", "django"]
    nonempty := by decide
    unique := by decide
    hosted := fun _ ↦ rfl }
  agentTimeoutMultiplier := Decimal.ofParts 1 0
  plugins := { execution := .replay }
  llmProviderConfig := {
    modelName := "qwen"
    baseUrl := "http://localhost/v1"
    apiKeyEnv := "KEY"
    maxContextLength := 32768
    seed := some 0
    maxTokens := 4096
    contract := LlmProviderConfig.contract_unlimited }
  replays := fun _ ↦ ⟨rfl, fun h ↦ nomatch h⟩

def firstEpochs : Execution := .replay ⟨"swe", "terminal_bench"⟩ fun _ ↦ 0

theorem identity_separates_twoTasks :
    (resolveMeasurementIdentity .spelled none (twoTasks.withPanel ["django", "astropy"]
        (List.Perm.swap ..)) firstEpochs).digest Hexdigest.spelled.digest =
      (resolveMeasurementIdentity .spelled none twoTasks firstEpochs).digest
        Hexdigest.spelled.digest ∧
    (resolveMeasurementIdentity .spelled none twoTasks
        (firstEpochs.bump (CACHE_SCHEMA ++ ":" ++ ("swe:" ++ shortDigest .spelled "swe" ++ ":" ++
          "astropy")))).digest Hexdigest.spelled.digest ≠
      (resolveMeasurementIdentity .spelled none twoTasks firstEpochs).digest
        Hexdigest.spelled.digest := by
  obtain ⟨-, hpermuted, hbumped⟩ := identity_separates .spelled none none twoTasks twoTasks
    firstEpochs firstEpochs (by decide) (by decide)
  exact ⟨hpermuted _ (List.Perm.swap ..), hbumped "astropy" (by decide) ⟨_, 0⟩ rfl⟩

end HarnessTraining
