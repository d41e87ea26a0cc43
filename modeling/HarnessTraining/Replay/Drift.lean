import HarnessTraining.Replay.History

/-!
# Drift

What becomes of a served prefix that the environment no longer reproduces.  `_materialize` marks the
first step that differs and reads its row once more for the diagnostic, from a store that fails open.

* `firstMismatch` — the first served step that differs, by the answers of the environment.
* `drift_iff_reported` — it is raised as a drift exactly if its row is still read.
-/

set_option autoImplicit false

namespace HarnessTraining

open StateExcept

/-- A served step that the environment does not reproduce: which it is, what happened up to its
execution, and what the environment shows of it. -/
structure StepMismatch (A : Type) where
  actionIndex : ℕ
  replayed : ReplayedStep
  trace : List (Event A)
  live : StepResult

namespace ReplayCache

variable {A : Type} (u : Unicode) (hexdigest : Hexdigest) (scope : ReplayScope) (world : World A)

/-- The first mismatch of served steps that are executed again, if every execution up to it
returns. -/
def firstMismatch : ℕ → List (Event A) → List ReplayedStep → Option (StepMismatch A)
  | _, _, [] => none
  | actionIndex, trace, replayed :: rest =>
    match world.execute trace replayed.action with
    | .error _ => none
    | .ok raw =>
      let live := u.scrubStepResult replayed.action.command (.ofRun raw)
      let trace := trace ++ [.execute replayed.action (.ok raw)]
      if u.scrubbedHash hexdigest.digest replayed.action.command live ≠ replayed.recordedHash then
        some ⟨actionIndex, replayed, trace, live⟩
      else firstMismatch (actionIndex + 1) trace rest

/-- The start of a step: the row of the action is looked up. -/
def lookUp : EnvAction → LoopM A ReplayCache (Option StepResult)
  | .run action => do
    let key ← advance hexdigest (.run action)
    serveReplay world key
  | .verify => do
    let key ← advance hexdigest .verify
    update fun cache ↦ { cache with verifyKey := some key }
    serveReplay world key

/-- What the materialization at an action observes, if the action is not served. -/
def observedMismatch (s : Rollout A ReplayCache) (action : EnvAction) : Option (StepMismatch A) :=
  match exec (lookUp hexdigest world action) s with
  | (.ok none, s') =>
    if s'.executor.live then none
    else firstMismatch u hexdigest world 1 s'.trace s'.executor.replayed
  | _ => none

end ReplayCache

/-- The event that marks the step. -/
def StepMismatch.marking {A : Type} (mismatch : StepMismatch A) (world : World A) : Event A :=
  .put (blockedKey mismatch.replayed.key) blockedValue
    (world.put mismatch.trace (blockedKey mismatch.replayed.key) blockedValue)

/-- What the report of a mismatch asks of the store: no deadline cuts the write of the mark, and the
row is read once more after it. -/
structure StepMismatch.Reported {A : Type} (mismatch : StepMismatch A) (world : World A) : Prop where
  marked : world.put mismatch.trace (blockedKey mismatch.replayed.key) blockedValue ≠
    .error .cancelled
  row : ∃ text, world.get (mismatch.trace ++ [mismatch.marking world]) mismatch.replayed.key =
    .ok (some text) ∧ (deserialize text).isSome

namespace ReplayCache

variable {A α : Type} {u : Unicode} {hexdigest : Hexdigest} {scope : ReplayScope} {world : World A}

/-- The program raises a drift of that step. -/
def Drifts (m : LoopM A ReplayCache α) (actionIndex : ℕ) (s : Rollout A ReplayCache) : Prop :=
  ∃ diagnostic s', exec m s = (.error (.executionDrift actionIndex diagnostic), s')

theorem drifts_iff {m : LoopM A ReplayCache α} {actionIndex : ℕ} {s : Rollout A ReplayCache} :
    Drifts m actionIndex s ↔ wp m (fun _ _ ↦ False)
      (fun error _ ↦ ∃ diagnostic, error = .executionDrift actionIndex diagnostic) s := by
  rw [wp]
  constructor
  · rintro ⟨diagnostic, s', hexec⟩
    rw [hexec]
    exact ⟨diagnostic, rfl⟩
  · intro h
    split at h
    · exact h.elim
    · next hexec =>
      obtain ⟨diagnostic, rfl⟩ := h
      exact ⟨diagnostic, _, hexec⟩

/-- **The report of a mismatch.**  It goes on to raise exactly if the store answers. -/
theorem wp_report (mismatch : StepMismatch A) {raise : StepResult → LoopM A ReplayCache α}
    {Q : α → Rollout A ReplayCache → Prop} {E : LoopError → Rollout A ReplayCache → Prop} {s : Rollout A ReplayCache}
    (hraise : ∀ recorded s', wp (raise recorded) Q E s')
    (hcancelled : ∀ s', ¬E .cancelled s') (hforeign : ∀ text s', ¬E (.foreign text) s')
    (htrace : s.trace = mismatch.trace) :
    wp (do
        cachePut world (blockedKey mismatch.replayed.key) blockedValue
        let recorded ← recordedResultForError u world mismatch.replayed
        raise recorded) Q E s ↔ mismatch.Reported world := by
  -- after the write, only the read decides
  have hread (hmarked : world.put s.trace (blockedKey mismatch.replayed.key) blockedValue ≠
      .error .cancelled) :
      wp (recordedResultForError u world mismatch.replayed >>= raise) Q E
          (s.push (mismatch.marking world)) ↔ mismatch.Reported world := by
    have hreported : mismatch.Reported world ↔ ∃ text,
        world.get (s.push (mismatch.marking world)).trace mismatch.replayed.key = .ok (some text) ∧
          (deserialize text).isSome := by
      rw [Rollout.push_trace, htrace]
      exact ⟨fun h ↦ h.row, fun h ↦ ⟨htrace ▸ hmarked, h⟩⟩
    rw [hreported, wp_bind, recordedResultForError, wp_bind, wp_cacheGet]
    rcases world.get (s.push (mismatch.marking world)).trace mismatch.replayed.key with
      (_ | error) | (_ | text)
    · simp [hcancelled]
    · simp [hforeign]
    · simp [hforeign]
    · cases hrow : deserialize text with
      | none => simp [wp_readRow, hrow, hforeign]
      | some result => simp [wp_readRow, hrow, hraise]
  rw [wp_bind, wp_cachePut]
  have hevent : ∀ answer, world.put s.trace (blockedKey mismatch.replayed.key) blockedValue = answer →
      .put (blockedKey mismatch.replayed.key) blockedValue answer = mismatch.marking world := by
    rintro answer rfl
    rw [StepMismatch.marking, htrace]
  cases hput : world.put s.trace (blockedKey mismatch.replayed.key) blockedValue with
  | ok =>
    rw [hevent _ hput]
    simpa [hput] using hread
  | error interrupt =>
    cases interrupt with
    | cancelled =>
      have hcut : ¬mismatch.Reported world := fun h ↦ h.marked (htrace ▸ hput)
      simp [hcancelled, hcut]
    | raised error =>
      have hcontinue := hread (by simp [hput])
      rw [← hevent _ hput] at hcontinue
      simpa using hcontinue

/-- **One step of the materialization after the other**, up to the first mismatch. -/
theorem materializeFrom_drifts {mismatch : StepMismatch A} {Q : Unit → Rollout A ReplayCache → Prop} :
    ∀ (replayed : List ReplayedStep) (actionIndex : ℕ) (s : Rollout A ReplayCache),
      firstMismatch u hexdigest world actionIndex s.trace replayed = some mismatch →
      (wp (materializeFrom u hexdigest scope world actionIndex replayed) Q
        (fun error _ ↦ ∃ diagnostic, error = .executionDrift mismatch.actionIndex diagnostic) s ↔
        mismatch.Reported world)
  | [], actionIndex, s, h => by cases h
  | replayed :: rest, actionIndex, s, h => by
    rw [firstMismatch] at h
    rw [materializeFrom, wp_bind, wp_executeRun]
    cases hexecute : world.execute s.trace replayed.action with
    | error interrupt =>
      rw [hexecute] at h
      cases h
    | ok raw =>
      rw [hexecute] at h
      simp only [Except.ok.injEq, forall_eq', reduceCtorEq, false_implies, implies_true, and_true]
      dsimp only at h
      by_cases hsame : u.scrubbedHash hexdigest.digest replayed.action.command
          (u.scrubStepResult replayed.action.command (.ofRun raw)) = replayed.recordedHash
      · rw [if_neg (not_not.mpr hsame)] at h ⊢
        exact materializeFrom_drifts rest (actionIndex + 1) _ h
      · rw [if_pos hsame] at h ⊢
        cases h
        refine wp_report (E := fun error _ ↦ ∃ diagnostic, error = .executionDrift actionIndex diagnostic)
          ⟨actionIndex, replayed, s.trace ++ [.execute replayed.action (.ok raw)],
            u.scrubStepResult replayed.action.command (.ofRun raw)⟩ ?_ ?_ ?_ ?_
        · exact fun recorded s' ↦ ⟨_, rfl⟩
        · simp
        · simp
        · rfl

theorem goLive_drifts {mismatch : StepMismatch A} {Q : Unit → Rollout A ReplayCache → Prop}
    {s : Rollout A ReplayCache}
    (hlive : s.executor.live = false)
    (h : firstMismatch u hexdigest world 1 s.trace s.executor.replayed = some mismatch) :
    wp (goLive u hexdigest scope world) Q
      (fun error _ ↦ ∃ diagnostic, error = .executionDrift mismatch.actionIndex diagnostic) s ↔
      mismatch.Reported world := by
  rw [goLive, wp_bind, wp_get, if_neg (by simp [hlive]), wp_bind, wp_update, materialize, wp_bind,
    wp_get, wp_bind]
  exact materializeFrom_drifts s.executor.replayed 1 _ h

theorem observedMismatch_some {mismatch : StepMismatch A} {s : Rollout A ReplayCache}
    {action : EnvAction} (h : observedMismatch u hexdigest world s action = some mismatch) :
    ∃ s', exec (lookUp hexdigest world action) s = (.ok none, s') ∧ s'.executor.live = false ∧
      firstMismatch u hexdigest world 1 s'.trace s'.executor.replayed = some mismatch := by
  rw [observedMismatch] at h
  split at h
  · next s' hexec =>
    split at h
    · cases h
    · next hlive => exact ⟨s', hexec, Bool.eq_false_of_not_eq_true hlive, h⟩
  · cases h

theorem stepRun_drifts {mismatch : StepMismatch A} {s : Rollout A ReplayCache} {action : RunAction}
    (h : observedMismatch u hexdigest world s (.run action) = some mismatch) :
    Drifts (stepRun u hexdigest scope world action) mismatch.actionIndex s ↔
      mismatch.Reported world := by
  obtain ⟨s', hexec, hlive, hmismatch⟩ := observedMismatch_some h
  have hserve : exec (serveReplay world (keyOf (advanceDigest hexdigest s.executor.digest
      (.run action)))) { s with executor := { s.executor with
        digest := advanceDigest hexdigest s.executor.digest (.run action) } } =
      (.ok none, s') := hexec
  rw [drifts_iff, stepRun, wp_bind, wp_advance, wp_bind, wp_of_exec hserve, wp_bind]
  exact goLive_drifts hlive hmismatch

theorem prepareSubmit_drifts {mismatch : StepMismatch A} {s : Rollout A ReplayCache}
    (h : observedMismatch u hexdigest world s .verify = some mismatch) :
    Drifts (prepareSubmit u hexdigest scope world) mismatch.actionIndex s ↔
      mismatch.Reported world := by
  obtain ⟨s', hexec, hlive, hmismatch⟩ := observedMismatch_some h
  have hserve : exec (serveReplay world (keyOf (advanceDigest hexdigest s.executor.digest
      .verify))) { s with executor := { s.executor with
        digest := advanceDigest hexdigest s.executor.digest .verify
        verifyKey := some (keyOf (advanceDigest hexdigest s.executor.digest .verify)) } } =
      (.ok none, s') := hexec
  rw [drifts_iff, prepareSubmit, wp_bind, wp_advance, wp_bind, wp_update, wp_bind,
    wp_of_exec hserve, wp_bind]
  exact goLive_drifts hlive hmismatch

/-- **A step that finds a mismatch raises a drift of it exactly if the row is still read.** -/
theorem drift_iff_reported (u : Unicode) (hexdigest : Hexdigest) (scope : ReplayScope)
    (world : World A) (s : Rollout A ReplayCache) (mismatch : StepMismatch A) :
    (∀ action, observedMismatch u hexdigest world s (.run action) = some mismatch →
      (Drifts (stepRun u hexdigest scope world action) mismatch.actionIndex s ↔
        mismatch.Reported world)) ∧
    (observedMismatch u hexdigest world s .verify = some mismatch →
      (Drifts (prepareSubmit u hexdigest scope world) mismatch.actionIndex s ↔
        mismatch.Reported world)) :=
  ⟨fun _ h ↦ stepRun_drifts h, prepareSubmit_drifts⟩

/-- A row that is found is served. -/
theorem exec_stepRun_row (u : Unicode) (hexdigest : Hexdigest) (scope : ReplayScope)
    (world : World A) (s : Rollout A ReplayCache) (action : RunAction) {key text : String}
    {result : StepResult}
    (hkey : key = keyOf (advanceDigest hexdigest s.executor.digest (.run action)))
    (hlive : s.executor.live = false) (hmarker : world.get s.trace (blockedKey key) = .ok none)
    (hrow : world.get (s.trace ++ [.get (blockedKey key) (.ok none)]) key = .ok (some text))
    (hread : deserialize text = some result) :
    exec (stepRun u hexdigest scope world action) s = (.ok result,
      { s with
        trace := s.trace ++ [.get (blockedKey key) (.ok none)] ++ [.get key (.ok (some text))]
        executor := { s.executor with
          digest := advanceDigest hexdigest s.executor.digest (.run action)
          replayed := s.executor.replayed ++
            [⟨action, key, u.scrubbedHash hexdigest.digest action.command result⟩] } }) := by
  apply exec_of_wp
  rw [stepRun, wp_bind, wp_advance, wp_bind, ← hkey, serveReplay, wp_bind, wp_get,
    if_neg (by simp [hlive]), wp_bind, wp_cacheGet]
  simp only [hmarker, Except.ok.injEq, forall_eq', reduceCtorEq, false_implies, implies_true, and_true]
  rw [wp_bind, wp_cacheGet]
  simp only [Rollout.push_trace, hrow, Except.ok.injEq, forall_eq', reduceCtorEq, false_implies,
    implies_true, and_true]
  rw [wp_bind, wp_readRow]
  simp [hread, Rollout.push]

end ReplayCache

/-! ## A store that fails -/

namespace Race

/-- The store has a row for the first look and none for the second, which it says by `missed`; to a
read after that it answers `reread`.  The environment no longer shows what the row says. -/
def rereadWorld (missed reread : Answer (Option String)) : World Unit :=
  { lookWorld (fun _ ↦ none) fun _ ↦ { stdout := "x" } with
    get := fun trace _ ↦ match trace.length with
      | 0 => .ok none
      | 1 => .ok (some lookRow)
      | 2 => missed
      | 3 => missed
      | _ => reread }

/-- The first look is served. -/
def lookedOnce (hexdigest : Hexdigest) : Rollout Unit ReplayCache where
  trace := lookedUp (lookKey hexdigest 1) (some lookRow)
  executor :=
    { digest := lookDigest hexdigest 1, replayed := [kept hexdigest (lookKey hexdigest 1)] }

/-- What the second look finds. -/
def lookMismatch (hexdigest : Hexdigest) (missed : Answer (Option String)) : StepMismatch Unit where
  actionIndex := 1
  replayed := kept hexdigest (lookKey hexdigest 1)
  trace := lookedUp (lookKey hexdigest 1) (some lookRow) ++
    [.get (blockedKey (lookKey hexdigest 2)) missed] ++ [.get (lookKey hexdigest 2) missed] ++
    [.execute look (.ok { stdout := "x" })]
  live := Unicode.ascii.scrubStepResult (some look.command) (.ofRun { stdout := "x" })

section Reread

variable {hexdigest : Hexdigest} {missed reread : Answer (Option String)}

theorem served_lookedOnce :
    exec (ReplayCache.stepRun .ascii hexdigest ⟨"task", 0⟩ (rereadWorld missed reread) look)
      { executor := .new hexdigest ⟨"task", 0⟩ } = (.ok (.ofRun {}), lookedOnce hexdigest) := by
  have hkey : lookKey hexdigest 1 = keyOf (advanceDigest hexdigest
      (ReplayCache.new hexdigest ⟨"task", 0⟩).digest (.run look)) := rfl
  exact ReplayCache.exec_stepRun_row .ascii hexdigest ⟨"task", 0⟩ (rereadWorld missed reread)
    { executor := .new hexdigest ⟨"task", 0⟩ } look hkey rfl rfl rfl deserialize_lookRow

theorem observed_lookMismatch (hmissed : Missed missed) :
    ReplayCache.observedMismatch .ascii hexdigest (rereadWorld missed reread) (lookedOnce hexdigest)
      (.run look) = some (lookMismatch hexdigest missed) := by
  have hlookUp : exec (ReplayCache.lookUp hexdigest (rereadWorld missed reread) (.run look))
      (lookedOnce hexdigest) = (.ok none, { lookedOnce hexdigest with
        trace := lookedUp (lookKey hexdigest 1) (some lookRow) ++
          [.get (blockedKey (lookKey hexdigest 2)) missed] ++ [.get (lookKey hexdigest 2) missed]
        executor := { (lookedOnce hexdigest).executor with digest := lookDigest hexdigest 2 } }) := by
    rcases hmissed with rfl | ⟨error, rfl⟩ <;> rfl
  rw [ReplayCache.observedMismatch, hlookUp]
  change ReplayCache.firstMismatch .ascii hexdigest (rereadWorld missed reread) 1 _
    [kept hexdigest (lookKey hexdigest 1)] = _
  rw [ReplayCache.firstMismatch]
  exact if_pos fun hsame ↦ look_drifts ((scrubbedHash_inj hexdigest.injective).mp hsame)

theorem reported_lookMismatch :
    (lookMismatch hexdigest missed).Reported (rereadWorld missed reread) ↔
      ∃ text, reread = .ok (some text) ∧ (deserialize text).isSome := by
  constructor
  · rintro ⟨-, text, hrow, hread⟩
    exact ⟨text, hrow, hread⟩
  · rintro ⟨text, rfl, hread⟩
    exact ⟨(by rintro ⟨⟩), text, rfl, hread⟩

end Reread

/-- The read of a store whose database is locked. -/
def locked : Answer (Option String) := .error (.raised (.other "database is locked"))

theorem drift_reported :
    ReplayCache.Drifts (ReplayCache.stepRun .ascii .spelled ⟨"task", 0⟩
      (rereadWorld (.ok none) (.ok (some lookRow))) look) 1 (lookedOnce .spelled) :=
  ((ReplayCache.drift_iff_reported .ascii .spelled ⟨"task", 0⟩
    (rereadWorld (.ok none) (.ok (some lookRow))) (lookedOnce .spelled)
    (lookMismatch .spelled (.ok none))).1 look (observed_lookMismatch (Or.inl rfl))).mpr
    (reported_lookMismatch.mpr ⟨lookRow, rfl, by rw [deserialize_lookRow]; rfl⟩)

/-- **A drift that is not raised.**  The store is locked after it served the first step. -/
theorem drift_unreported :
    ∃ s mismatch,
      exec (ReplayCache.stepRun .ascii .spelled ⟨"task", 0⟩ (rereadWorld locked locked) look)
        { executor := .new .spelled ⟨"task", 0⟩ } = (.ok (.ofRun {}), s) ∧
      ReplayCache.observedMismatch .ascii .spelled (rereadWorld locked locked) s (.run look) =
        some mismatch ∧
      ¬ReplayCache.Drifts
        (ReplayCache.stepRun .ascii .spelled ⟨"task", 0⟩ (rereadWorld locked locked) look)
        mismatch.actionIndex s := by
  have hobserved : ReplayCache.observedMismatch .ascii .spelled (rereadWorld locked locked)
      (lookedOnce .spelled) (.run look) = some (lookMismatch .spelled locked) :=
    observed_lookMismatch (Or.inr ⟨_, rfl⟩)
  refine ⟨lookedOnce .spelled, _, served_lookedOnce, hobserved, fun hdrifts ↦ ?_⟩
  obtain ⟨text, hrow, -⟩ := reported_lookMismatch.mp ((ReplayCache.stepRun_drifts hobserved).mp hdrifts)
  cases hrow

end Race

end HarnessTraining
