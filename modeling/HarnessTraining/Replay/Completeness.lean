import HarnessTraining.Replay.ChainFile
import HarnessTraining.Replay.Faithful
import HarnessTraining.Replay.Inheritance

/-!
# The audit is complete

A rollout on an environment whose raw results are a function of the action history passes its audit:
the chain that was written, of live steps and of steps served from that environment's recordings, is
reproduced by a fresh copy of the environment.

* `audit_complete` — the certificate of such a chain.
-/

set_option autoImplicit false

namespace HarnessTraining

open StateExcept SharedStore

/-- The action chains of rollouts on an environment: live, or under the step cache over a store that
was written by rollouts on the environment. -/
inductive RolledOut (A : Type) (u : Unicode) (hexdigest : Hexdigest) (env : HistoryEnv) :
    List ChainStep → Prop
  | live (world : World A) (maxSteps : ℕ) (stallTimeoutSec : ℚ) (hruns : RunsOn env world) :
      RolledOut A u hexdigest env
        (exec (runTaskLoop u world (liveStepExecutor world) maxSteps stallTimeoutSec)
          { executor := () }).2.actionChain
  | replayed (ι : Type) [DecidableEq ι] (rollouts : ι → ReplayedRollout A)
      (history : List (Occurrence ι (Event A))) (i : ι)
      (hshared : Shared u hexdigest rollouts history)
      (hended : projection i history = (rollouts i).trace u hexdigest)
      (hruns : ∀ j, (rollouts j).scope = (rollouts i).scope → RunsOn env (rollouts j).world) :
      RolledOut A u hexdigest env ((rollouts i).actionChain u hexdigest)

/-- A fresh copy of an environment, with time enough: it is set up and closed, and answers as the
environment does. -/
structure CopyOf (env : HistoryEnv) (copy : AuditEnv) : Prop where
  setup : copy.setup = .ok ()
  execute : ∀ before action raw, env.execute before action = .ok raw →
    copy.execute before action = .ok raw
  verify : ∀ before outcome, env.verify before = .ok outcome → copy.verify before = .ok outcome
  close : copy.close = .ok ()

section Copy

variable {env : HistoryEnv} {copy : AuditEnv} {u : Unicode} {hexdigest : String → String}

theorem CopyOf.reply (h : CopyOf env copy) {before : List EnvAction} {action : EnvAction}
    {result : StepResult} (hreply : env.reply before action = .ok result) :
    copy.reply before action = .ok result := by
  cases action with
  | run action =>
    rw [HistoryEnv.reply] at hreply
    rw [AuditEnv.reply]
    cases hexecute : env.execute before action with
    | error error =>
      rw [hexecute] at hreply
      cases hreply
    | ok raw =>
      rw [hexecute] at hreply
      cases hreply
      rw [h.execute before action raw hexecute]
      rfl
  | verify =>
    rw [HistoryEnv.reply] at hreply
    rw [AuditEnv.reply]
    cases hverify : env.verify before with
    | error error =>
      rw [hverify] at hreply
      cases hreply
    | ok outcome =>
      rw [hverify] at hreply
      cases hreply
      rw [h.verify before outcome hverify]
      rfl

/-- The row of a step keeps its action, and whether it was cut short. -/
theorem action_chainRow (step : ChainStep) :
    (chainRow u hexdigest step).action = step.envAction ∧
      (chainRow u hexdigest step).timedOut = step.timedOut := by
  rw [chainRow]
  cases step.envAction <;> exact ⟨rfl, rfl⟩

/-- A transition matches the row that was written of it. -/
theorem matches_chainRow (step : ChainStep) :
    (chainRow u hexdigest step).Matches u hexdigest step.stepResult := by
  rw [chainRow]
  cases step.envAction with
  | run action => rfl
  | verify => simp [ChainRow.Matches, VerdictSummary.agrees]

/-- A copy reproduces an attested chain. -/
theorem Attested.reproduces (hcopy : CopyOf env copy) {chain : List ChainStep}
    (h : Attested env u chain) (htimed : ∀ step ∈ chain, step.timedOut = false) :
    ∀ (before after : List ChainStep), chain = before ++ after →
      Reproduces u hexdigest copy (before.map ChainStep.envAction) (after.map (chainRow u hexdigest))
  | _, [], _ => trivial
  | before, step :: after, hsplit => by
    have hstep : step.timedOut = false := htimed step (by simp [hsplit])
    obtain ⟨result, hreply, hresult⟩ := h before step after hsplit hstep
    have hrest := Attested.reproduces hcopy h htimed (before ++ [step]) after (by simp [hsplit])
    have haction : (chainRow u hexdigest step).action = step.envAction := (action_chainRow step).1
    rw [List.map_append, List.map_singleton, ← haction] at hrest
    refine ⟨⟨result, ?_, ?_⟩, hrest⟩
    · rw [(action_chainRow step).1]
      exact hcopy.reply hreply
    · rw [(action_chainRow step).1, ← hresult]
      exact matches_chainRow step

/-- What is reproduced is no fork. -/
theorem checkRows_reproduced : ∀ (rows : List ChainRow) (actionIndex : ℕ) (before : List EnvAction),
    Reproduces u hexdigest copy before rows →
    checkRows u hexdigest copy actionIndex before rows = .ok none
  | [], _, _, _ => rfl
  | row :: rows, actionIndex, before, ⟨⟨result, hreply, hmatches⟩, hrest⟩ => by
    obtain ⟨mismatch, hcompare, hiff⟩ := compareAction_reply hexdigest hreply
    rw [checkRows, hcompare, hiff.mpr hmatches, ok_bind]
    exact checkRows_reproduced rows (actionIndex + 1) (before ++ [row.action]) hrest

end Copy

theorem RolledOut.attested {A : Type} {u : Unicode} {hexdigest : Hexdigest} {env : HistoryEnv}
    {chain : List ChainStep} (h : RolledOut A u hexdigest env chain) : Attested env u chain := by
  cases h with
  | live world maxSteps stallTimeoutSec hruns => exact attested_live hruns u maxSteps stallTimeoutSec
  | replayed ι rollouts history i hshared hended hruns =>
    exact (rollouts i).attested (hruns i rfl) (hended ▸ hshared.truthful i hruns)

/-- **The audit is complete.**  A chain without a step that was cut short, written by a rollout on an
environment, is deterministic on a fresh copy of that environment. -/
theorem audit_complete {A : Type} {u : Unicode} {hexdigest : Hexdigest} {env : HistoryEnv}
    {chain : List ChainStep} {copy : AuditEnv} {world : AuditWorld} {experimentId : String}
    {task : TaskId} (hchain : RolledOut A u hexdigest env chain)
    (htimed : ∀ step ∈ chain, step.timedOut = false)
    (hfile : world.chain experimentId task =
      (chainRows (chainText u hexdigest.digest chain)).map some)
    (hmake : world.makeEnv task = .ok copy) (hcopy : CopyOf env copy) :
    checkOne u hexdigest.digest world experimentId task =
      .ok (⟨chainRowsDigest hexdigest.digest (chain.map (chainRow u hexdigest.digest)), .deterministic⟩,
        none) := by
  have hreproduces : Reproduces u hexdigest.digest copy []
      (chain.map (chainRow u hexdigest.digest)) :=
    hchain.attested.reproduces hcopy htimed [] chain rfl
  have hrows := checkRows_reproduced _ 1 [] hreproduces
  have htimeout : hasTimeout (some (chain.map (chainRow u hexdigest.digest))) = false := by
    rw [hasTimeout, Option.getD_some, List.any_map, List.any_eq_false]
    intro step hstep
    rw [Function.comp_apply, (action_chainRow step).2, htimed step hstep]
    decide
  have hload : loadChain hexdigest.digest world experimentId task =
      .ok (some (chain.map (chainRow u hexdigest.digest)),
        chainRowsDigest hexdigest.digest (chain.map (chainRow u hexdigest.digest)), false) := by
    rw [loadChain, hfile, chainRows_chainText, ← htimeout]
    rfl
  have hcheck : checkTask u hexdigest.digest world task (chain.map (chainRow u hexdigest.digest)) =
      .ok none := by
    rw [checkTask, hmake, ok_bind, hcopy.setup, ok_bind, hrows, hcopy.close]
    rfl
  rw [checkOne, hload, ok_bind]
  dsimp only
  rw [hcheck]
  rfl

/-! ## A submit that was served

One rollout submits and records the verdict; another one is served it. -/

namespace Served

def submitKey : String := stepKey .spelled ⟨"task", 0⟩ [.verify]

def submitRow : String := serializeStepResult (.ofVerify passingOutcome)

/-- The transition of the submit. -/
def submitted : StepResult := Unicode.ascii.scrubStepResult none (.ofVerify passingOutcome)

/-- A policy that submits at once; the second read of the store finds `row`. -/
def submitter (row : Option String) : ReplayedRollout Unit where
  scope := ⟨"task", 0⟩
  world := { submitWorld (.ok ()) with
    get := fun trace _ ↦ .ok (if (trace.filter Event.isGet).length = 1 then row else none) }
  maxSteps := 1
  stallTimeoutSec := 1200

/-- What happens until the submit. -/
def request : List (Event Unit) :=
  [.reset (.ok {}), .policyReset {} (.ok ()), .act (.actions [()]), .name () (.ok "submit")]

/-- A step is looked up. -/
def lookup (row : Option String) : List (Event Unit) :=
  [.get (blockedKey submitKey) (.ok none), .get submitKey (.ok row)]

/-- It is executed and recorded. -/
def record : List (Event Unit) := [.verify (.ok passingOutcome), .put submitKey submitRow (.ok ())]

/-- The end is told to the policy. -/
def ending : List (Event Unit) :=
  [.telemetry (.stepCompleted 1 0 submitted true) (.ok ()), .observe () submitted (.ok ())]

theorem trace_recorder :
    (submitter none).trace .ascii .spelled = request ++ (lookup none ++ (record ++ ending)) := by
  rfl

theorem submitter_served {row : String} (hrow : deserialize row = some (.ofVerify passingOutcome)) :
    wp (runTaskLoop .ascii (submitter (some row)).world
        (ReplayCache.executor .ascii .spelled (submitter (some row)).scope (submitter (some row)).world)
        (submitter (some row)).maxSteps (submitter (some row)).stallTimeoutSec)
      (fun _ s ↦ s.trace = request ++ (lookup (some row) ++ ending) ∧
        s.actionChain = [⟨.verify, submitted, false⟩])
      (fun _ _ ↦ False) { executor := .new .spelled (submitter (some row)).scope } := by
  change wp (runTaskLoop .ascii _ (ReplayCache.executor .ascii .spelled _ _) 1 1200) _ _ _
  rw [runTaskLoop, wp_tryCatch, episode, wp_bind, setup, wp_tryCatch, wp_bind, wp_perform, wp_bind,
    Answer.wp_orRaise]
  refine ⟨?_, (by rintro ⟨⟩), (by rintro error ⟨⟩)⟩
  rintro output ⟨⟩
  refine wp_bind.mpr (wp_pure.mpr (wp_pure.mpr (wp_bind.mpr (wp_askPolicy.mpr
    ⟨?_, (by rintro error ⟨⟩)⟩))))
  rintro ⟨⟩ ⟨⟩
  rw [turns, wp_ite]
  refine ⟨fun hcap ↦ absurd hcap (by decide), fun _ ↦ ?_⟩
  rw [wp_bind, act, wp_bind, wp_perform]
  refine wp_pure.mpr (wp_bind.mpr ?_)
  rw [executeBatch, wp_bind, executeAction, wp_bind, wp_askPolicy]
  refine ⟨?_, (by rintro error ⟨⟩)⟩
  rintro name ⟨⟩
  rw [wp_ite]
  refine ⟨fun _ ↦ ?_, fun hother ↦ absurd rfl hother⟩
  -- the submit is looked up and found
  rw [wp_bind, prepareSubmit, wp_tryCatch]
  refine wp_bind.mpr (ReplayCache.wp_advance.mpr (wp_bind.mpr (ReplayCache.wp_update.mpr
    (wp_bind.mpr ?_))))
  rw [ReplayCache.serveReplay, wp_bind, wp_get]
  refine wp_bind.mpr (ReplayCache.wp_cacheGet.mpr ⟨?_, (by rintro ⟨⟩), (by rintro error ⟨⟩)⟩)
  rintro marker ⟨⟩
  refine wp_bind.mpr (ReplayCache.wp_cacheGet.mpr ⟨?_, (by rintro ⟨⟩), (by rintro error ⟨⟩)⟩)
  rintro text ⟨⟩
  refine wp_bind.mpr (ReplayCache.wp_readRow.mpr ⟨fun result hresult ↦ ?_, fun hunread ↦ ?_⟩)
  · obtain rfl : .ofVerify passingOutcome = result := Option.some.inj (hrow.symm.trans hresult)
    exact ⟨rfl, rfl⟩
  · cases hunread.symm.trans hrow

/-- The run of the rollout that is served. -/
theorem served_run {row : String} (hrow : deserialize row = some (.ofVerify passingOutcome)) :
    (submitter (some row)).trace .ascii .spelled = request ++ (lookup (some row) ++ ending) ∧
      (submitter (some row)).actionChain .ascii .spelled = [⟨.verify, submitted, false⟩] :=
  wp_left (P := fun s : Rollout Unit ReplayCache ↦
    s.trace = request ++ (lookup (some row) ++ ending) ∧
      s.actionChain = [⟨.verify, submitted, false⟩])
    (wp_mono (submitter_served hrow) (fun _ _ h ↦ h) fun _ _ h ↦ h.elim)

/-- The recorder, and the rollout that is served. -/
def submitters (served : Bool) : ReplayedRollout Unit :=
  if served then submitter (some submitRow) else submitter none

def history : List (Occurrence Bool (Event Unit)) :=
  speech false ((submitter none).trace .ascii .spelled) ++
    speech true ((submitter (some submitRow)).trace .ascii .spelled)

theorem projection_history (party : Bool) :
    projection party history = (submitters party).trace .ascii .spelled := by
  cases party <;> simp [history, submitters, projection_append, projection_speech]

theorem stored_recorder (key : String) :
    stored storeAccess (speech false (request ++ (lookup none ++ (record ++ ending)))) key =
      if key = submitKey then some submitRow else none := by
  have hlookup : stored storeAccess (speech false (request ++ (lookup none ++ (record ++ ending)))) key =
      match key == submitKey with
      | true => some submitRow
      | false => none := rfl
  rw [hlookup]
  split <;> simp_all

theorem consistent_lookup {history : List (Occurrence Bool (Event Unit))} {party : Bool}
    {row : Option String} (h : Consistent storeAccess history)
    (hmarker : stored storeAccess history (blockedKey submitKey) = none)
    (hrow : stored storeAccess history submitKey = row) :
    Consistent storeAccess (history ++ speech party (lookup row)) := by
  rw [lookup, speech, List.map_cons, ← List.singleton_append, ← List.append_assoc]
  refine (h.snoc ?_).snoc ?_
  · rintro _ _ ⟨⟩
    exact hmarker.symm
  · rintro _ _ ⟨⟩
    rw [stored_append_eq, hrow]
    exact Option.or_none.symm

theorem consistent_history : Consistent storeAccess history := by
  have hblind : ∀ events ∈ [request, record, ending], ∀ event ∈ events,
      storeAccess.get? event = none := by
    simp [request, record, ending, storeAccess]
  have hserved : (submitter (some submitRow)).trace .ascii .spelled =
      request ++ (lookup (some submitRow) ++ ending) := (served_run (deserialize_serialize _)).1
  have hrecorder : Consistent storeAccess
      (speech false (request ++ (lookup none ++ (record ++ ending)))) := by
    rw [speech_append, speech_append, speech_append, ← List.append_assoc, ← List.append_assoc]
    refine .speech (.speech (consistent_lookup ?_ rfl rfl) (hblind record (by simp)))
      (hblind ending (by simp))
    rw [← List.nil_append (speech false request)]
    exact .speech .nil (hblind request (by simp))
  have hrequest : ∀ key, stored storeAccess (speech (ι := Bool) true request) key = none := fun _ ↦ rfl
  rw [history, trace_recorder, hserved, speech_append true, speech_append true, ← List.append_assoc,
    ← List.append_assoc]
  refine .speech (consistent_lookup (.speech hrecorder (hblind request (by simp))) ?_ ?_)
    (hblind ending (by simp))
  · have hne : blockedKey submitKey ≠ submitKey := blockedKey_ne_stepKey _
    rw [stored_append_eq, stored_recorder, hrequest, if_neg hne]
    rfl
  · rw [stored_append_eq, stored_recorder, if_pos rfl]
    rfl

/-- The environment of both. -/
def passingEnv : HistoryEnv where
  execute _ _ := .ok {}
  verify _ := .ok passingOutcome

theorem runsOn_passingEnv (row : Option String) : RunsOn passingEnv (submitter row).world where
  execute _ _ := Or.inr rfl
  verify _ := Or.inr rfl

/-- A fresh copy of it. -/
def passingCopy : AuditEnv where
  setup := .ok ()
  execute _ _ := .ok {}
  verify _ := .ok passingOutcome
  close := .ok ()

theorem copyOf_passing : CopyOf passingEnv passingCopy := by
  refine ⟨rfl, ?_, ?_, rfl⟩
  · rintro before action raw ⟨⟩
    rfl
  · rintro before outcome ⟨⟩
    rfl

/-- The audit of a chain. -/
def auditOf (chain : List ChainStep) : AuditWorld where
  chain _ _ := (chainRows (chainText .ascii Hexdigest.spelled.digest chain)).map some
  loadTasks _ := .ok ()
  replayNamespace _ := none
  makeEnv _ := .ok passingCopy
  taskDir _ task := task

theorem auditOf_chain (chain : List ChainStep) (experimentId : String) (task : TaskId) :
    (auditOf chain).chain experimentId task =
      (chainRows (chainText .ascii Hexdigest.spelled.digest chain)).map some := rfl

/-- The rollout that was served passes its audit. -/
theorem audit_complete_served :
    checkOne .ascii Hexdigest.spelled.digest (auditOf ((submitters true).actionChain .ascii .spelled))
        "baseline" "task" =
      .ok (⟨chainRowsDigest Hexdigest.spelled.digest
        (((submitters true).actionChain .ascii .spelled).map
          (chainRow .ascii Hexdigest.spelled.digest)), .deterministic⟩, none) := by
  have hruns : ∀ served, RunsOn passingEnv (submitters served).world := by
    intro served
    cases served
    · exact runsOn_passingEnv none
    · exact runsOn_passingEnv (some submitRow)
  have hchain : (submitters true).actionChain .ascii .spelled = [⟨.verify, submitted, false⟩] :=
    (served_run (deserialize_serialize _)).2
  refine audit_complete (.replayed Bool submitters history true
    ⟨fun party ↦ (projection_history party) ▸ List.prefix_rfl, consistent_history⟩
    (projection_history true) fun served _ ↦ hruns served) ?_ (auditOf_chain _ _ _) rfl copyOf_passing
  rw [hchain]
  simp

end Served

end HarnessTraining
