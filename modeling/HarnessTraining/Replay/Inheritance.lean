import HarnessTraining.Replay.Audit
import HarnessTraining.Replay.Keys

/-!
# Inherited certificates

What the certificates of a baseline are: every task has one, which is that of a fresh audit or of an
earlier baseline.  A task inherits a certificate when the digest of its actions is the same.

* `certificates_spec` — every task gets a certificate, and none else.
* `checkOne_spec` — what an audit finds, on an environment that answers.
* `exclude_agrees` — when an inherited verdict is the verdict of a fresh audit.
-/

set_option autoImplicit false

namespace HarnessTraining

open StateExcept

/-! ## Certificates -/

section Certificates

variable {u : Unicode} {hexdigest : String → String} {world : AuditWorld} {baseline : ExperimentResult}
  {inherited : Option ExperimentResult} {entries : List (TaskId × TaskCertification)}
  {inheritedTasks : List TaskId} {forks : List Fork}

/-- The certificate of one task: inherited, or the result of an audit. -/
def certificateOf (u : Unicode) (hexdigest : String → String) (world : AuditWorld) (experimentId : String)
    (prior : AList fun _ : TaskId ↦ TaskCertification) (task : TaskId) :
    Except String TaskCertification := do
  match ← inheritedCertificate hexdigest world experimentId prior task with
  | some certificate => return certificate
  | none => return (← checkOne u hexdigest world experimentId task).1

theorem lookup_certificationOf {task : TaskId} {certificate : TaskCertification}
    (h : (certificationOf entries).lookup task = some certificate) : (task, certificate) ∈ entries := by
  rw [certificationOf, AList.lookup_to_alist] at h
  obtain ⟨entry, hmem, heq⟩ := List.mem_map.mp (List.of_mem_dlookup h)
  cases heq
  exact hmem

theorem mem_certificationOf {task : TaskId} :
    task ∈ certificationOf entries ↔ task ∈ entries.map Prod.fst := by
  rw [← AList.lookup_isSome, certificationOf, AList.lookup_to_alist, List.dlookup_isSome, List.keys,
    List.map_map]
  rfl

theorem auditTasks_ok {experimentId : String} {tasks : List TaskId}
    {audited : List (TaskId × TaskCertification × Option Fork)}
    (h : auditTasks u hexdigest world experimentId tasks = .ok audited) :
    audited.map Prod.fst = tasks ∧
      ∀ checked ∈ audited, checkOne u hexdigest world experimentId checked.1 = .ok checked.2 := by
  rw [auditTasks] at h
  split at h
  · next hnone =>
    obtain rfl := Except.ok.inj h
    exact ⟨hnone.symm, by simp⟩
  · obtain ⟨-, -, h⟩ := bind_eq_ok h
    exact mapM_pair_ok h

/-- **Every task of a baseline gets a certificate**, and none else. -/
theorem certificates_spec
    (h : certificates u hexdigest world baseline inherited = .ok (entries, inheritedTasks, forks)) :
    (∀ task, task ∈ entries.map Prod.fst ↔ task ∈ baseline.tasks) ∧
    ∀ entry ∈ entries, certificateOf u hexdigest world baseline.experimentId
      (inheritable hexdigest baseline inherited) entry.1 = .ok entry.2 := by
  obtain ⟨candidates, hcandidates, h⟩ := bind_eq_ok h
  obtain ⟨audited, haudited, h⟩ := bind_eq_ok h
  obtain ⟨hkeys, hvalues⟩ := mapM_pair_ok hcandidates
  obtain ⟨hauditedKeys, hauditedValues⟩ := auditTasks_ok haudited
  simp only [pure, Except.pure, Except.ok.injEq, Prod.mk.injEq] at h
  obtain ⟨rfl, -, -⟩ := h
  have htaken : ∀ {task certificate}, (task, certificate) ∈ candidates.filterMap
      (fun candidate ↦ candidate.2.map (Prod.mk candidate.1)) ↔
        (task, some certificate) ∈ candidates := by
    intro task certificate
    rw [List.mem_filterMap]
    constructor
    · rintro ⟨⟨task', _ | certificate'⟩, hmem, heq⟩
      · cases heq
      · cases heq
        exact hmem
    · intro hmem
      exact ⟨_, hmem, rfl⟩
  generalize candidates.filterMap (fun candidate ↦ candidate.2.map (Prod.mk candidate.1)) = taken at *
  have hinherits : ∀ task, task ∈ baseline.tasks.keys → task ∉ taken.map Prod.fst →
      (task, none) ∈ candidates := by
    intro task htask hnot
    rw [← hkeys] at htask
    obtain ⟨⟨_, answer⟩, hmem, rfl⟩ := List.mem_map.mp htask
    cases answer with
    | none => exact hmem
    | some certificate => exact absurd (List.mem_map.mpr ⟨_, htaken.mpr hmem, rfl⟩) hnot
  constructor
  · intro task
    have hmap : (audited.map fun checked ↦ (checked.1, checked.2.1)).map Prod.fst =
        baseline.tasks.keys.filter fun task ↦ task ∉ taken.map Prod.fst := by
      rw [List.map_map, ← hauditedKeys]
      rfl
    rw [List.map_append, List.mem_append, hmap, List.mem_filter, decide_eq_true_eq, AList.mem_keys]
    constructor
    · rintro (hmem | ⟨hmem, -⟩)
      · obtain ⟨⟨_, certificate⟩, hentry, rfl⟩ := List.mem_map.mp hmem
        rw [← hkeys]
        exact List.mem_map.mpr ⟨_, htaken.mp hentry, rfl⟩
      · exact hmem
    · intro hmem
      by_cases hinherit : task ∈ taken.map Prod.fst
      · exact Or.inl hinherit
      · exact Or.inr ⟨hmem, hinherit⟩
  · intro entry hentry
    rcases List.mem_append.mp hentry with hmem | hmem
    · have hanswer := hvalues _ (htaken.mp hmem)
      rw [certificateOf, hanswer]
      rfl
    · obtain ⟨checked, hchecked, rfl⟩ := List.mem_map.mp hmem
      have hkey : checked.1 ∈ baseline.tasks.keys.filter fun task ↦ task ∉ taken.map Prod.fst := by
        rw [← hauditedKeys]
        exact List.mem_map.mpr ⟨checked, hchecked, rfl⟩
      rw [List.mem_filter, decide_eq_true_eq] at hkey
      have hanswer := hvalues _ (hinherits _ hkey.1 hkey.2)
      dsimp only at hanswer ⊢
      rw [certificateOf, hanswer, ok_bind, hauditedValues checked hchecked]
      rfl

end Certificates
/-! ## What an audit finds -/

section Verdicts

variable (u : Unicode) (hexdigest : String → String)

/-- An environment that is a function of the actions it has executed. -/
structure AuditEnv.Answers (env : AuditEnv) : Prop where
  setup : env.setup = .ok ()
  execute : ∀ before action, ∃ raw, env.execute before action = .ok raw
  verify : ∀ before, ∃ outcome, env.verify before = .ok outcome
  close : env.close = .ok ()

theorem AuditEnv.Answers.reply {env : AuditEnv} (h : env.Answers) (before : List EnvAction)
    (action : EnvAction) : ∃ result, env.reply before action = .ok result := by
  cases action with
  | run action =>
    obtain ⟨raw, hraw⟩ := h.execute before action
    exact ⟨_, by rw [AuditEnv.reply, hraw]; rfl⟩
  | verify =>
    obtain ⟨outcome, houtcome⟩ := h.verify before
    exact ⟨_, by rw [AuditEnv.reply, houtcome]; rfl⟩

/-- A recorded row is what a live transition amounts to. -/
def ChainRow.Matches (row : ChainRow) (live : StepResult) : Prop :=
  match row with
  | .run action auditHash _ => u.scrubbedHash hexdigest (some action.command) live = auditHash
  | .verify verdict _ => (verdictSummary live).agrees verdict = true

/-- The environment reproduces the recorded outputs of a chain. -/
def Reproduces (env : AuditEnv) : List EnvAction → List ChainRow → Prop
  | _, [] => True
  | before, row :: rows =>
    (∃ result, env.reply before row.action = .ok result ∧
      row.Matches u hexdigest (u.scrubStepResult row.action.command? result)) ∧
    Reproduces env (before ++ [row.action]) rows

/-- A chain that can be executed again: it was recorded, and no step of it was cut short. -/
def Complete (rows : Option (List ChainRow)) : Prop := rows.isSome = true ∧ hasTimeout rows = false

variable {u} {env : AuditEnv}

/-- Comparing an action that the environment answered. -/
theorem compareAction_reply {before : List EnvAction} {row : ChainRow} {result : StepResult}
    (hreply : env.reply before row.action = .ok result) :
    ∃ mismatch, compareAction u hexdigest env before row = .ok mismatch ∧
      (mismatch = none ↔ row.Matches u hexdigest (u.scrubStepResult row.action.command? result)) := by
  rw [compareAction, hreply, ok_bind]
  cases row with
  | run action auditHash timedOut =>
    dsimp only
    split
    · next hsame => exact ⟨_, rfl, iff_of_true rfl hsame⟩
    · next hdiffers => exact ⟨_, rfl, iff_of_false (by simp) hdiffers⟩
  | verify verdict timedOut =>
    dsimp only
    split
    · next hsame => exact ⟨_, rfl, iff_of_true rfl hsame⟩
    · next hdiffers => exact ⟨_, rfl, iff_of_false (by simp) hdiffers⟩

theorem compareAction_spec (henv : env.Answers) (before : List EnvAction) (row : ChainRow) :
    ∃ mismatch, compareAction u hexdigest env before row = .ok mismatch ∧
      (mismatch = none ↔ ∃ result, env.reply before row.action = .ok result ∧
        row.Matches u hexdigest (u.scrubStepResult row.action.command? result)) := by
  obtain ⟨result, hresult⟩ := henv.reply before row.action
  obtain ⟨mismatch, hcompare, hiff⟩ := compareAction_reply (u := u) hexdigest hresult
  refine ⟨mismatch, hcompare, hiff.trans ⟨fun h ↦ ⟨result, hresult, h⟩, ?_⟩⟩
  rintro ⟨_, heq, h⟩
  cases hresult.symm.trans heq
  exact h

theorem checkRows_spec (henv : env.Answers) : ∀ (rows : List ChainRow) (actionIndex : ℕ)
    (before : List EnvAction), ∃ fork, checkRows u hexdigest env actionIndex before rows = .ok fork ∧
      (fork = none ↔ Reproduces u hexdigest env before rows)
  | [], _, _ => ⟨none, rfl, iff_of_true rfl trivial⟩
  | row :: rows, actionIndex, before => by
    obtain ⟨mismatch, hcompare, hiff⟩ := compareAction_spec (u := u) hexdigest henv before row
    rw [checkRows, hcompare, ok_bind, Reproduces, ← hiff]
    cases mismatch with
    | some mismatch => exact ⟨_, rfl, iff_of_false (by simp) (by simp)⟩
    | none =>
      obtain ⟨fork, hrows, hfork⟩ := checkRows_spec henv rows (actionIndex + 1) (before ++ [row.action])
      exact ⟨fork, hrows, by rw [hfork]; simp⟩

theorem checkTask_spec {world : AuditWorld} {task : TaskId} (henv : env.Answers)
    (hmake : world.makeEnv task = .ok env) (rows : List ChainRow) :
    ∃ fork, checkTask u hexdigest world task rows = .ok fork ∧
      (fork = none ↔ Reproduces u hexdigest env [] rows) := by
  obtain ⟨fork, hrows, hfork⟩ := checkRows_spec (u := u) hexdigest henv rows 1 []
  refine ⟨fork.map fun fork ↦ ⟨task, world.replayNamespace task, fork.1, fork.2.1, fork.2.2⟩, ?_, ?_⟩
  · rw [checkTask, hmake, ok_bind]
    dsimp only
    rw [henv.setup, henv.close, ok_bind, ok_bind, hrows]
    rfl
  · rw [Option.map_eq_none_iff, hfork]

/-- **What an audit finds.**  A chain that is missing or timed out is no chain; of the others, those
that the environment reproduces are deterministic. -/
theorem checkOne_spec {world : AuditWorld} {experimentId : String} {task : TaskId}
    {rows : Option (List ChainRow)} (henv : env.Answers) (hmake : world.makeEnv task = .ok env)
    (hchain : world.chain experimentId task = .ok rows) :
    ∃ verdict fork, checkOne u hexdigest world experimentId task =
        .ok (⟨chainRowsDigest hexdigest (rows.getD []), verdict⟩, fork) ∧
      (verdict = .noChain ↔ ¬Complete rows) ∧
      (verdict = .deterministic ↔
        Complete rows ∧ Reproduces u hexdigest env [] (rows.getD [])) := by
  have hload : loadChain hexdigest world experimentId task =
      .ok (rows, chainRowsDigest hexdigest (rows.getD []), hasTimeout rows) := by
    rw [loadChain, hchain]
    rfl
  rw [checkOne, hload, ok_bind]
  cases rows with
  | none =>
    refine ⟨.noChain, none, rfl, iff_of_true rfl ?_, iff_of_false (by simp) ?_⟩
    · rintro ⟨hsome, -⟩
      cases hsome
    · rintro ⟨⟨hsome, -⟩, -⟩
      cases hsome
  | some rows =>
    cases htimeout : hasTimeout (some rows) with
    | true =>
      refine ⟨.noChain, none, rfl, iff_of_true rfl ?_, iff_of_false (by simp) ?_⟩
      · rintro ⟨-, hcomplete⟩
        cases htimeout.symm.trans hcomplete
      · rintro ⟨⟨-, hcomplete⟩, -⟩
        cases htimeout.symm.trans hcomplete
    | false =>
      have hcomplete : Complete (some rows) := ⟨rfl, htimeout⟩
      obtain ⟨fork, htask, hfork⟩ := checkTask_spec (u := u) hexdigest henv hmake rows
      dsimp only
      rw [htask, ok_bind]
      cases fork with
      | none =>
        exact ⟨_, _, rfl, iff_of_false (by simp) (by simpa using hcomplete),
          iff_of_true rfl ⟨hcomplete, hfork.mp rfl⟩⟩
      | some fork =>
        refine ⟨_, _, rfl, iff_of_false (by simp) (by simpa using hcomplete),
          iff_of_false (by simp) ?_⟩
        rintro ⟨-, hreproduces⟩
        cases hfork.mpr hreproduces

end Verdicts

/-! ## The certified baseline -/

section Certify

variable {u : Unicode} {hexdigest : String → String} {world : AuditWorld} {baseline : ExperimentResult}
  {inherited : Option ExperimentResult} {s : AuditState}

theorem wp_ofExcept {α : Type} {answer : Except String α} {Q : α → AuditState → Prop}
    {E : String → AuditState → Prop} :
    wp (ofExcept answer) Q E s ↔ (∀ a, answer = .ok a → Q a s) ∧ ∀ e, answer = .error e → E e s := by
  have heq : ofExcept answer = MonadExcept.ofExcept answer := by cases answer <;> rfl
  rw [heq, StateExcept.wp_ofExcept]

/-- The certificates of a baseline that was not certified before. -/
structure Certifies (u : Unicode) (hexdigest : String → String) (world : AuditWorld)
    (baseline : ExperimentResult) (inherited : Option ExperimentResult)
    (certification : AList fun _ : TaskId ↦ TaskCertification) : Prop where
  mem : ∀ task, task ∈ certification ↔ task ∈ baseline.tasks
  lookup : ∀ task certificate, certification.lookup task = some certificate →
    certificateOf u hexdigest world baseline.experimentId (inheritable hexdigest baseline inherited)
      task = .ok certificate

/-- What certifying leaves: a baseline that was certified stays as it is; one that was not is saved
with the certificates of its tasks.  An exception leaves nothing. -/
theorem certify_spec :
    wp (certify u hexdigest world baseline inherited)
      (fun certified s' ↦
        certified.baseline =
          { baseline with determinismCertification := some certified.certification } ∧
        (baseline.determinismCertification = some certified.certification ∧ s' = s ∨
          baseline.determinismCertification = none ∧
            Certifies u hexdigest world baseline inherited certified.certification ∧
            s'.store = s.store.saveExperiment certified.baseline))
      (fun _ s' ↦ s' = s) s := by
  rw [certify]
  cases hcertification : baseline.determinismCertification with
  | some certification =>
    refine ⟨?_, Or.inl ⟨rfl, rfl⟩⟩
    rw [← hcertification]
  | none =>
    rw [wp_bind, wp_ofExcept]
    refine ⟨?_, fun _ _ ↦ rfl⟩
    rintro ⟨entries, inheritedTasks, forks⟩ hcertificates
    obtain ⟨hkeys, hvalues⟩ := certificates_spec hcertificates
    refine ⟨rfl, Or.inr ⟨rfl, ⟨fun task ↦ ?_, fun task certificate hlookup ↦ ?_⟩, rfl⟩⟩
    · rw [mem_certificationOf, hkeys]
    · exact hvalues _ (lookup_certificationOf hlookup)

/-- The tasks of a certified baseline that no certificate excludes. -/
def deterministicTasks (certified : ExperimentResult) : List TaskId :=
  certified.tasks.keys.filter fun task ↦
    ((certified.determinismCertification.getD ∅).lookup task).all fun certificate ↦
      certificate.verdict = .deterministic

theorem exclude_spec :
    wp (excludeNondeterministicTasks u hexdigest world baseline inherited)
      (fun result s' ↦ ∃ certification,
        result.1 = { baseline with determinismCertification := some certification } ∧
        result.2 = deterministicTasks result.1 ∧ result.2 ≠ [] ∧
        (baseline.determinismCertification = some certification ∧ s'.store = s.store ∨
          baseline.determinismCertification = none ∧
            Certifies u hexdigest world baseline inherited certification ∧
            s'.store = s.store.saveExperiment result.1))
      (fun _ s' ↦ s'.store = s.store ∨ ∃ certification,
        baseline.determinismCertification = none ∧
        Certifies u hexdigest world baseline inherited certification ∧
        s'.store = s.store.saveExperiment
          { baseline with determinismCertification := some certification }) s := by
  rw [excludeNondeterministicTasks, wp_bind]
  refine wp_mono certify_spec ?_ fun _ s' h ↦ Or.inl (by rw [h])
  rintro ⟨baseline', certification, cached, inheritedTasks⟩ s₁ ⟨hbaseline, hcases⟩
  dsimp only at hbaseline hcases
  subst hbaseline
  rw [wp_bind, wp_modify, wp_ite]
  refine ⟨fun _ ↦ ?_, fun hpanel ↦ ⟨certification, rfl, rfl, hpanel, ?_⟩⟩
  · rcases hcases with ⟨-, rfl⟩ | ⟨hnone, hcertifies, hstore⟩
    · exact Or.inl rfl
    · exact Or.inr ⟨certification, hnone, hcertifies, hstore⟩
  · rcases hcases with ⟨hsome, rfl⟩ | ⟨hnone, hcertifies, hstore⟩
    · exact Or.inl ⟨hsome, rfl⟩
    · exact Or.inr ⟨hnone, hcertifies, hstore⟩

end Certify

/-! ## Inherited verdicts -/

section Inheritance

variable {u : Unicode} {hexdigest : String → String} {world : AuditWorld} {baseline : ExperimentResult}
  {inherited : Option ExperimentResult} {s : AuditState}

/-- The digest of a chain determines its actions, and nothing else of it. -/
theorem chainRowsDigest_inj (hinjective : Function.Injective hexdigest) {rows rows' : List ChainRow} :
    chainRowsDigest hexdigest rows = chainRowsDigest hexdigest rows' ↔
      rows.map ChainRow.action = rows'.map ChainRow.action := by
  have hnormal : Function.Injective fun action ↦ (actionPayload action).normal := fun action action' h ↦
    canonicalAction_inj.mp (Json.dumps_inj.mpr h)
  have hmap : ∀ rows : List ChainRow, (rows.map fun row ↦ actionPayload row.action).map Json.normal =
      (rows.map ChainRow.action).map fun action ↦ (actionPayload action).normal := by
    intro rows
    rw [List.map_map, List.map_map]
    rfl
  rw [chainRowsDigest, chainRowsDigest, hinjective.eq_iff, Json.dumpsLines_inj, hmap, hmap,
    (List.map_injective_iff.mpr hnormal).eq_iff]

/-- Two chains on which an audit comes to the same: both can be executed again or neither can, and the
environment reproduces both or neither. -/
def Alike (u : Unicode) (hexdigest : String → String) (env : AuditEnv)
    (rows rows' : Option (List ChainRow)) : Prop :=
  (Complete rows ↔ Complete rows') ∧ (Complete rows → Complete rows' →
    (Reproduces u hexdigest env [] (rows.getD []) ↔ Reproduces u hexdigest env [] (rows'.getD [])))

/-- A task takes over its certificate: it has one, no step of the new chain was cut short, and the
actions are those of the chain that was audited. -/
structure Inherits (prior : AList fun _ : TaskId ↦ TaskCertification) (task : TaskId)
    (audited recorded : Option (List ChainRow)) : Prop where
  certified : task ∈ prior
  complete : hasTimeout recorded = false
  actions : (recorded.getD []).map ChainRow.action = (audited.getD []).map ChainRow.action

theorem verdict_eq_iff {env : AuditEnv} {rows rows' : Option (List ChainRow)}
    {verdict verdict' : CertificationVerdict}
    (hnoChain : verdict = .noChain ↔ ¬Complete rows)
    (hdeterministic : verdict = .deterministic ↔
      Complete rows ∧ Reproduces u hexdigest env [] (rows.getD []))
    (hnoChain' : verdict' = .noChain ↔ ¬Complete rows')
    (hdeterministic' : verdict' = .deterministic ↔
      Complete rows' ∧ Reproduces u hexdigest env [] (rows'.getD [])) :
    verdict = verdict' ↔ Alike u hexdigest env rows rows' := by
  rw [Alike]
  cases verdict <;> cases verdict' <;> simp at hnoChain hdeterministic hnoChain' hdeterministic' ⊢ <;>
    tauto

theorem certificateOf_cases {experimentId : String} {task : TaskId}
    {prior : AList fun _ : TaskId ↦ TaskCertification} {rows : Option (List ChainRow)}
    {certificate : TaskCertification} (hchain : world.chain experimentId task = .ok rows)
    (h : certificateOf u hexdigest world experimentId prior task = .ok certificate) :
    (prior.lookup task = some certificate ∧ hasTimeout rows = false ∧
        chainRowsDigest hexdigest (rows.getD []) = certificate.chainDigest) ∨
      (∀ certificate', prior.lookup task = some certificate' → hasTimeout rows = false →
          chainRowsDigest hexdigest (rows.getD []) ≠ certificate'.chainDigest) ∧
        ∃ fork, checkOne u hexdigest world experimentId task = .ok (certificate, fork) := by
  have haudit : ∀ {certificate : TaskCertification}, (do
        return (← checkOne u hexdigest world experimentId task).1) = Except.ok certificate →
      ∃ fork, checkOne u hexdigest world experimentId task = .ok (certificate, fork) := by
    intro certificate h
    obtain ⟨⟨_, fork⟩, hchecked, heq⟩ := bind_eq_ok h
    cases heq
    exact ⟨fork, hchecked⟩
  have hload : loadChain hexdigest world experimentId task =
      .ok (rows, chainRowsDigest hexdigest (rows.getD []), hasTimeout rows) := by
    rw [loadChain, hchain]
    rfl
  rw [certificateOf, inheritedCertificate] at h
  cases hlookup : prior.lookup task with
  | none =>
    rw [hlookup] at h
    exact Or.inr ⟨(by rintro _ ⟨⟩), haudit h⟩
  | some certificate' =>
    rw [hlookup] at h
    dsimp only at h
    rw [hload, ok_bind] at h
    dsimp only at h
    split at h
    · next hsame =>
      obtain rfl := Except.ok.inj h
      exact Or.inl ⟨rfl, hsame⟩
    · next hdiffers =>
      refine Or.inr ⟨fun certificate'' hsome htimeout hdigest ↦ ?_, haudit h⟩
      obtain rfl := Option.some.inj hsome
      exact hdiffers ⟨htimeout, hdigest⟩

/-- **When an inherited verdict is that of a fresh audit.**  Let the certificates of the earlier
baseline be those of audits on environments that are functions of the actions they have executed.  A
task of the new baseline gets the verdict of an audit of its own chain if and only if it does not
inherit, or its chain and the audited one are alike. -/
theorem exclude_agrees (hinjective : Function.Injective hexdigest) {env : TaskId → AuditEnv}
    {auditedRun : TaskId → String} {audited recorded : TaskId → Option (List ChainRow)}
    {certified : ExperimentResult} {panel : List TaskId} {s' : AuditState}
    (hfresh : baseline.determinismCertification = none)
    (henv : ∀ task ∈ baseline.tasks, world.makeEnv task = .ok (env task) ∧ (env task).Answers)
    (hrecorded : ∀ task ∈ baseline.tasks,
      world.chain baseline.experimentId task = .ok (recorded task))
    (hprior : ∀ task ∈ baseline.tasks, ∀ prior,
      (inheritable hexdigest baseline inherited).lookup task = some prior →
        world.chain (auditedRun task) task = .ok (audited task) ∧
          ∃ fork, checkOne u hexdigest world (auditedRun task) task = .ok (prior, fork))
    (hrun : exec (excludeNondeterministicTasks u hexdigest world baseline inherited) s =
      (.ok (certified, panel), s')) :
    ∀ task ∈ baseline.tasks, ∃ certificate fresh fork,
      (certified.determinismCertification.getD ∅).lookup task = some certificate ∧
      checkOne u hexdigest world baseline.experimentId task = .ok (fresh, fork) ∧
      (certificate.verdict = fresh.verdict ↔
        (Inherits (inheritable hexdigest baseline inherited) task (audited task) (recorded task) →
          Alike u hexdigest (env task) (audited task) (recorded task))) := by
  intro task htask
  obtain ⟨certification, hcertified, -, -, hcases⟩ := wp_ok exclude_spec hrun
  dsimp only at hcertified
  subst hcertified
  obtain ⟨hsome, -⟩ | ⟨-, hcertifies, -⟩ := hcases
  · cases hfresh.symm.trans hsome
  obtain ⟨hmake, hanswers⟩ := henv task htask
  obtain ⟨certificate, hlookup⟩ := Option.isSome_iff_exists.mp
    (AList.lookup_isSome.mpr ((hcertifies.mem task).mpr htask))
  obtain ⟨verdict, fork, hfreshAudit, hnoChain, hdeterministic⟩ :=
    checkOne_spec (u := u) hexdigest hanswers hmake (hrecorded task htask)
  refine ⟨certificate, _, fork, hlookup, hfreshAudit, ?_⟩
  have hof := hcertifies.lookup task certificate hlookup
  rcases certificateOf_cases (hrecorded task htask) hof with
    ⟨hprior', htimeout, hdigest⟩ | ⟨hdiffers, fork', haudited⟩
  · -- inherited: the verdict is that of the audited chain
    obtain ⟨hchain, fork', haudited⟩ := hprior task htask certificate hprior'
    obtain ⟨verdict', fork'', haudit, hnoChain', hdeterministic'⟩ :=
      checkOne_spec (u := u) hexdigest hanswers hmake hchain
    obtain ⟨rfl, -⟩ := Prod.mk.inj (Except.ok.inj (haudited.symm.trans haudit))
    rw [verdict_eq_iff hnoChain' hdeterministic' hnoChain hdeterministic]
    have hinherits : Inherits (inheritable hexdigest baseline inherited) task (audited task)
        (recorded task) :=
      ⟨AList.lookup_isSome.mp (by rw [hprior']; rfl), htimeout, (chainRowsDigest_inj hinjective).mp hdigest⟩
    exact ⟨fun h _ ↦ h, fun h ↦ h hinherits⟩
  · -- audited
    obtain ⟨rfl, -⟩ := Prod.mk.inj (Except.ok.inj (haudited.symm.trans hfreshAudit))
    refine iff_of_true rfl fun hinherits ↦ ?_
    obtain ⟨prior, hprior'⟩ := Option.isSome_iff_exists.mp (AList.lookup_isSome.mpr hinherits.certified)
    obtain ⟨hchain, fork', haudited'⟩ := hprior task htask prior hprior'
    obtain ⟨verdict', fork'', haudit, -⟩ :=
      checkOne_spec (u := u) hexdigest hanswers hmake hchain
    obtain ⟨rfl, -⟩ := Prod.mk.inj (Except.ok.inj (haudited'.symm.trans haudit))
    exact absurd ((chainRowsDigest_inj hinjective).mpr hinherits.actions)
      (hdiffers _ hprior' hinherits.complete)

end Inheritance

/-! ## A missing chain -/

/-- An environment that answers nothing. -/
def quietEnv : AuditEnv where
  setup := .ok ()
  execute _ _ := .ok {}
  verify _ := .ok {
    verdict := { completed := true, passed := some true, error := none, valid := VerifyVerdict.valid_passed }
    output := {}
    reward := .int 1
    info := .empty
    metrics := .empty }
  close := .ok ()

theorem quietEnv_answers : quietEnv.Answers :=
  ⟨rfl, fun _ _ ↦ ⟨_, rfl⟩, fun _ ↦ ⟨_, rfl⟩, rfl⟩

/-- The baseline `old` recorded a chain without a step; the chain of every other run is `recorded`. -/
def quietWorld (recorded : Option (List ChainRow)) : AuditWorld where
  chain experimentId _ := .ok (if experimentId = "old" then some [] else recorded)
  loadTasks _ := .ok ()
  replayNamespace _ := none
  makeEnv _ := .ok quietEnv
  taskDir _ _ := "runs"

/-- A baseline of one task. -/
def quietRun (experimentId : String)
    (certification : Option (AList fun _ : TaskId ↦ TaskCertification)) : ExperimentResult where
  experimentId
  gitCommitHash := "c0"
  measurementIdentity := ⟨"", "", ""⟩
  tasks := AList.singleton "task" none
  determinismCertification := certification

/-- The certificates of `old`. -/
def quietCertificates : AList fun _ : TaskId ↦ TaskCertification :=
  AList.singleton "task" ⟨"", .deterministic⟩

theorem quietWorld_audit (recorded : Option (List ChainRow)) :
    checkOne .ascii id (quietWorld recorded) "old" "task" = .ok (⟨"", .deterministic⟩, none) := rfl

/-- **A missing chain is certified.**  The digest of no chain is that of a chain without a step, so the
task stays in the panel, whose audit finds no chain. -/
theorem missing_chain_certified : ∃ certified s',
    exec (excludeNondeterministicTasks .ascii id (quietWorld none) (quietRun "new" none)
        (some (quietRun "old" (some quietCertificates)))) { store := {} } =
      (.ok (certified, ["task"]), s') ∧
    (certified.determinismCertification.getD ∅).lookup "task" = some ⟨"", .deterministic⟩ ∧
    checkOne .ascii id (quietWorld none) "old" "task" = .ok (⟨"", .deterministic⟩, none) ∧
    checkOne .ascii id (quietWorld none) "new" "task" = .ok (⟨"", .noChain⟩, none) :=
  ⟨_, _, rfl, rfl, rfl, rfl⟩

/-- A chain that was recorded without a step inherits the verdict of its audit. -/
theorem exclude_agrees_quiet : ∃ certificate fresh fork,
    quietCertificates.lookup "task" = some certificate ∧
    checkOne .ascii id (quietWorld (some [])) "new" "task" = .ok (fresh, fork) ∧
    (certificate.verdict = fresh.verdict ↔
      (Inherits quietCertificates "task" (some []) (some []) →
        Alike .ascii id quietEnv (some []) (some []))) := by
  have henv : ∀ task ∈ (quietRun "new" none).tasks,
      (quietWorld (some [])).makeEnv task = .ok ((fun _ ↦ quietEnv) task) ∧ quietEnv.Answers :=
    fun _ _ ↦ ⟨rfl, quietEnv_answers⟩
  have hprior : ∀ task ∈ (quietRun "new" none).tasks, ∀ prior,
      (inheritable id (quietRun "new" none) (some (quietRun "old" (some quietCertificates)))).lookup
        task = some prior →
      (quietWorld (some [])).chain ((fun _ ↦ "old") task) task = .ok ((fun _ ↦ some []) task) ∧
        ∃ fork, checkOne .ascii id (quietWorld (some [])) ((fun _ ↦ "old") task) task =
          .ok (prior, fork) := by
    intro task htask prior hprior
    obtain rfl : task = "task" := List.mem_singleton.mp (AList.mem_keys.mpr htask)
    obtain rfl : (⟨"", .deterministic⟩ : TaskCertification) = prior := Option.some.inj hprior
    exact ⟨rfl, none, rfl⟩
  have hrun : exec (excludeNondeterministicTasks .ascii id (quietWorld (some []))
      (quietRun "new" none) (some (quietRun "old" (some quietCertificates)))) { store := {} } =
        (.ok (quietRun "new" (some quietCertificates), ["task"]), _) := rfl
  have htask : "task" ∈ (quietRun "new" none).tasks :=
    AList.mem_keys.mp (List.mem_singleton.mpr rfl)
  exact exclude_agrees Function.injective_id rfl henv (fun _ _ ↦ rfl) hprior hrun "task" htask

end HarnessTraining
