import HarnessTraining.Library.StateExcept
import HarnessTraining.Library.Transitions
import HarnessTraining.Rollout.Store

/-!
# An experiment

`run_experiment` of `src/rollout/sampler.py`.  The rollouts of a panel are the tasks of one event loop:
they run in any order, and each reads and writes the whole record when it ends.  What happens between
two `await`s is one event.  The first failure, or a cancellation from outside, cancels the others; a
rollout may outlive its cancellation.

* `Sampler.step` — what each event does.
* `Sampler.Held` — the invariant of a run.
* `experiment_finality` — a record is finished with every result, or crashed with what was logged.
-/

set_option autoImplicit false

namespace HarnessTraining

open Transitions

/-- Where `run_one` of a task is. -/
inductive RunOne where
  /-- At an `await`; the flag says that it was cancelled and does not know yet. -/
  | running (cancelled : Bool)
  | returned
  | raised (text : String)
  deriving DecidableEq

def RunOne.ended : RunOne → Bool
  | running _ => false
  | _ => true

/-- `Task.cancel`: it does nothing to a task that ended. -/
def RunOne.cancel : RunOne → RunOne
  | running _ => running true
  | ended => ended

theorem RunOne.cancel_of_ended {state : RunOne} (h : state.ended = true) : state.cancel = state := by
  cases state <;> first | rfl | cases h

theorem RunOne.cancel_eq_returned {state : RunOne} (h : state.cancel = .returned) :
    state = .returned := by
  cases state <;> first | rfl | cases h

theorem RunOne.cancel_ne_running (state : RunOne) : state.cancel ≠ .running false := by
  cases state <;> simp [RunOne.cancel]

/-- After `task_finished`, which may raise. -/
def RunOne.told : Except String Unit → RunOne
  | .error text => raised text
  | .ok () => returned

theorem RunOne.ended_told (observed : Except String Unit) : (RunOne.told observed).ended = true := by
  cases observed <;> rfl

/-- Where `run_experiment` is. -/
inductive SamplerPhase where
  /-- It waits for the task set. -/
  | loading
  /-- It waits for the rollouts. -/
  | gathering
  /-- It cancelled the rollouts, for that reason if there is one, and waits for all to end. -/
  | draining (reason : Option String)
  | ended (outcome : Except String ExperimentResult)

/-- There are rollouts. -/
def SamplerPhase.rolling : SamplerPhase → Bool
  | gathering | draining _ => true
  | _ => false

/-- One event of the loop. -/
inductive SamplerEvent where
  /-- The task set is there, or the wait for it raises. -/
  | loaded (answer : Except String Unit) (now : Timestamp)
  /-- A rollout ends and is logged; then the observer is told, who may raise. -/
  | finished (task : TaskId) (result : RolloutResult) (observed : Except String Unit)
  /-- A rollout raises. -/
  | failed (task : TaskId) (text : String)
  /-- Code of a rollout swallows its cancellation. -/
  | outlived (task : TaskId)
  /-- The experiment is cancelled, and with it the rollouts it waits for, if it still waits. -/
  | cancelled (waiting : Bool)
  /-- `run_experiment` goes on after the rollouts, with the exception they raised. -/
  | resumed (reason : Option String)
  | drained (now : Timestamp)

/-- The event cancels every rollout. -/
def SamplerEvent.cancelsAll : SamplerEvent → Bool
  | cancelled waiting => waiting
  | resumed _ => true
  | _ => false

/-- An experiment in progress. -/
structure Sampler where
  experimentId : String
  taskIds : List TaskId
  store : RunStore
  tasks : TaskId → RunOne := fun _ ↦ .running false
  phase : SamplerPhase := .loading
  /-- A cancellation is still to be delivered. -/
  cancelled : Bool := false

/-- The text of a cancellation. -/
def cancelledError : String := "CancelledError"

namespace Sampler

/-- The record is created, with a place for every task. -/
def start (store : RunStore) (experimentId : String) (gitCommitHash : Sha)
    (measurementIdentity : MeasurementIdentity) (startedAt : Timestamp) (taskIds : List TaskId) :
    Sampler where
  experimentId := experimentId
  taskIds := taskIds
  store := store.saveExperiment {
    experimentId := experimentId
    gitCommitHash := gitCommitHash
    measurementIdentity := measurementIdentity
    startedAt := startedAt
    tasks := (taskIds.map fun task ↦ ⟨task, none⟩).toAList }

/-- The `except` clause. -/
def crash (s : Sampler) (now : Timestamp) (reason : String) : Sampler :=
  match s.store.markCrashed s.experimentId now reason with
  | .error text => { s with phase := .ended (.error text) }
  | .ok (store, _) => { s with store := store, phase := .ended (.error reason) }

/-- The record is read once more, and saved as finished. -/
def complete (s : Sampler) (now : Timestamp) : Sampler :=
  match s.store.loadExperiment s.experimentId with
  | .error text => { s with phase := .ended (.error text) }
  | .ok loaded =>
    let completed := { loaded with finishedAt := some now }
    { s with store := s.store.saveExperiment completed, phase := .ended (.ok completed) }

/-- A rollout takes a step. -/
def setTask (s : Sampler) (task : TaskId) (state : RunOne) : Sampler :=
  { s with tasks := Function.update s.tasks task state }

/-- `log_rollout` and `task_finished`, at the end of `run_one`. -/
def finish (s : Sampler) (task : TaskId) (result : RolloutResult) (observed : Except String Unit) :
    Sampler :=
  match s.store.logRollout s.experimentId result with
  | .error text => s.setTask task (.raised text)
  | .ok store => { s with store := store }.setTask task (.told observed)

/-- Every rollout is cancelled. -/
def cancelAll (s : Sampler) : Sampler := { s with tasks := fun task ↦ (s.tasks task).cancel }

def allEnded (s : Sampler) : Bool := s.taskIds.all fun task ↦ (s.tasks task).ended

/-- `gather` is over: a rollout raised, or all ended. -/
def settled (s : Sampler) : Bool :=
  s.allEnded || s.taskIds.any fun task ↦ (s.tasks task).ended && s.tasks task ≠ .returned

/-- `gather` raises that, or nothing. -/
def gathers (s : Sampler) : Option String → Bool
  | none => s.taskIds.all (fun task ↦ s.tasks task = .returned) && !s.cancelled
  | some reason => s.settled && ((s.cancelled && reason = cancelledError) ||
      s.taskIds.any fun task ↦ s.tasks task = .raised reason)

/-- What `run_experiment` waits for is over. -/
def waited (s : Sampler) : Bool :=
  match s.phase with
  | .gathering => s.settled
  | _ => s.allEnded

/-- What an event does, or nothing if it cannot happen. -/
def step (s : Sampler) : SamplerEvent → Option Sampler
  | .loaded answer now =>
    match s.phase, answer with
    | .loading, .ok () => some { s with phase := .gathering }
    | .loading, .error reason => some (s.crash now reason)
    | _, _ => none
  | .finished task result observed =>
    if s.phase.rolling ∧ task ∈ s.taskIds ∧ result.taskId = task ∧ s.tasks task = .running false then
      some (s.finish task result observed)
    else none
  | .failed task text =>
    if s.phase.rolling ∧ task ∈ s.taskIds ∧ (s.tasks task).ended = false then
      some (s.setTask task (.raised text))
    else none
  | .outlived task =>
    if s.phase.rolling ∧ task ∈ s.taskIds ∧ s.tasks task = .running true then
      some (s.setTask task (.running false))
    else none
  | .cancelled waiting =>
    if s.phase.rolling ∧ (waiting ∨ s.waited) then
      some { (if waiting then s.cancelAll else s) with cancelled := true }
    else none
  | .resumed reason =>
    match s.phase with
    | .gathering =>
      if s.gathers reason then
        some { s.cancelAll with phase := .draining reason, cancelled := false }
      else none
    | _ => none
  | .drained now =>
    match s.phase with
    | .draining reason =>
      if s.allEnded then
        match if s.cancelled then some cancelledError else reason with
        | some reason => some (s.crash now reason)
        | none => some (s.complete now)
      else none
    | _ => none

/-! ## The invariant -/

/-- The rollout of a task was logged. -/
def Logged (events : List SamplerEvent) (task : TaskId) (result : RolloutResult) : Prop :=
  ∃ observed, .finished task result observed ∈ events

/-- What a record says at a phase. -/
def Stamped (panel : List TaskId) (record : ExperimentResult) : SamplerPhase → Prop
  | .ended (.ok completed) => record = completed ∧ record.finishedAt.isSome ∧
      record.crashReason = none ∧ ∀ task ∈ panel, (record.rollout? task).isSome
  | .ended (.error reason) => record.crashReason = some reason ∧ record.finishedAt.isSome
  | _ => record.finishedAt = none ∧ record.crashReason = none

/-- A record has a place for every task, and the results that were logged. -/
structure Records (runId : String) (panel : List TaskId) (events : List SamplerEvent)
    (record : ExperimentResult) : Prop where
  experimentId : record.experimentId = runId
  mem : ∀ task, task ∈ record.tasks ↔ task ∈ panel
  rollout : ∀ task result, record.rollout? task = some result ↔ Logged events task result

/-- **The invariant of a run.** -/
structure Held (runId : String) (panel : List TaskId) (events : List SamplerEvent) (s : Sampler) :
    Prop where
  experimentId : s.experimentId = runId
  taskIds : s.taskIds = panel
  record : ∃ record, s.store.files.lookup runId = some record ∧
    Records runId panel events record ∧ Stamped panel record s.phase
  logged : ∀ task result, Logged events task result → (s.tasks task).ended = true
  returned : ∀ task ∈ panel, s.tasks task = .returned → ∃ result, Logged events task result
  drained : s.phase = .draining none → ∀ task ∈ panel, s.tasks task = .returned

variable {runId : String} {panel : List TaskId} {events : List SamplerEvent} {s : Sampler}

theorem logged_snoc {event : SamplerEvent} {task : TaskId} {result : RolloutResult} :
    Logged (events ++ [event]) task result ↔
      Logged events task result ∨ ∃ observed, event = .finished task result observed := by
  simp only [Logged, List.mem_append, List.mem_singleton, exists_or, eq_comm]

/-- The events so far, and one that logs nothing. -/
theorem logged_snoc_of_ne {event : SamplerEvent} {task : TaskId} {result : RolloutResult}
    (h : ∀ task result observed, event ≠ .finished task result observed) :
    Logged (events ++ [event]) task result ↔ Logged events task result := by
  rw [logged_snoc, or_iff_left]
  rintro ⟨observed, hfinished⟩
  exact h task result observed hfinished

/-- A record that is neither finished nor crashed is read back. -/
theorem loadExperiment_open {store : RunStore} {record : ExperimentResult}
    (hfile : store.files.lookup runId = some record) (hfinished : record.finishedAt = none)
    (hcrash : record.crashReason = none) : store.loadExperiment runId = .ok record := by
  rw [RunStore.loadExperiment, hfile]
  simp [ExperimentResult.check, hfinished, hcrash]
  rfl

theorem lookup_saveExperiment {record : ExperimentResult} (h : record.experimentId = runId)
    (store : RunStore) : (store.saveExperiment record).files.lookup runId = some record := by
  rw [← h]
  exact AList.lookup_insert _

theorem start_held (store : RunStore) (runId : String) (gitCommitHash : Sha)
    (measurementIdentity : MeasurementIdentity) (startedAt : Timestamp) (panel : List TaskId) :
    Held runId panel [] (start store runId gitCommitHash measurementIdentity startedAt panel) where
  experimentId := rfl
  taskIds := rfl
  record := by
    refine ⟨_, lookup_saveExperiment rfl _, ⟨rfl, fun task ↦ ?_, fun task result ↦ ?_⟩, rfl, rfl⟩
    · rw [← AList.lookup_isSome, AList.lookup_to_alist, List.dlookup_isSome]
      simp [List.keys]
    · rw [ExperimentResult.rollout?_eq_some, AList.lookup_to_alist]
      constructor
      · intro h
        have hmem := List.of_mem_dlookup h
        simp at hmem
      · rintro ⟨observed, hmem⟩
        cases hmem
  logged task result h := by
    obtain ⟨observed, hmem⟩ := h
    cases hmem
  returned task _ h := by cases h
  drained h := by cases h

/-! ## What the parts of a step keep -/

theorem not_ended_of_rolling {phase : SamplerPhase} (h : phase.rolling = true)
    (outcome : Except String ExperimentResult) : phase ≠ .ended outcome := by
  rintro rfl
  cases h

/-- While the experiment goes on, its record is open, and it is read back. -/
theorem Held.opened (h : Held runId panel events s) (hopen : ∀ outcome, s.phase ≠ .ended outcome) :
    ∃ record, s.store.loadExperiment s.experimentId = .ok record ∧
      s.store.files.lookup runId = some record ∧ Records runId panel events record ∧
      record.finishedAt = none ∧ record.crashReason = none := by
  obtain ⟨record, hfile, hrecords, hstamped⟩ := h.record
  have hunfinished : record.finishedAt = none ∧ record.crashReason = none := by
    cases hphase : s.phase with
    | ended outcome => exact absurd hphase (hopen outcome)
    | _ =>
      rw [hphase] at hstamped
      exact hstamped
  refine ⟨record, ?_, hfile, hrecords, hunfinished⟩
  rw [h.experimentId]
  exact loadExperiment_open hfile hunfinished.1 hunfinished.2

section Quiet

variable {event : SamplerEvent}

theorem Records.snoc {record : ExperimentResult} (h : Records runId panel events record)
    (hevent : ∀ task result observed, event ≠ .finished task result observed) :
    Records runId panel (events ++ [event]) record where
  experimentId := h.experimentId
  mem := h.mem
  rollout task result := by rw [h.rollout, logged_snoc_of_ne hevent]

theorem Held.crash (h : Held runId panel events s) (hopen : ∀ outcome, s.phase ≠ .ended outcome)
    (hevent : ∀ task result observed, event ≠ .finished task result observed) (now : Timestamp)
    (reason : String) : Held runId panel (events ++ [event]) (s.crash now reason) := by
  obtain ⟨record, hload, -, hrecords, -, hcrash⟩ := h.opened hopen
  have hs : s.crash now reason = { s with
      store := s.store.saveExperiment
        { record with finishedAt := some now, crashReason := some reason }
      phase := .ended (.error reason) } := by
    rw [Sampler.crash, RunStore.markCrashed, hload, StateExcept.ok_bind, hcrash]
    rfl
  rw [hs]
  exact {
    experimentId := h.experimentId
    taskIds := h.taskIds
    record := by
      refine ⟨_, lookup_saveExperiment (by exact hrecords.experimentId) s.store, ?_, rfl, rfl⟩
      exact ⟨hrecords.experimentId, hrecords.mem, (hrecords.snoc hevent).rollout⟩
    logged := fun task result hlogged ↦ h.logged task result ((logged_snoc_of_ne hevent).mp hlogged)
    returned := fun task hmem hreturned ↦
      (h.returned task hmem hreturned).imp fun _ ↦ (logged_snoc_of_ne hevent).mpr
    drained := fun hphase ↦ nomatch hphase }

theorem Held.complete (h : Held runId panel events s) (hphase : s.phase = .draining none)
    (hevent : ∀ task result observed, event ≠ .finished task result observed) (now : Timestamp) :
    Held runId panel (events ++ [event]) (s.complete now) := by
  obtain ⟨record, hload, -, hrecords, -, hcrash⟩ := h.opened fun outcome ↦ by simp [hphase]
  have hs : s.complete now = { s with
      store := s.store.saveExperiment { record with finishedAt := some now }
      phase := .ended (.ok { record with finishedAt := some now }) } := by
    rw [Sampler.complete, hload]
  rw [hs]
  exact {
    experimentId := h.experimentId
    taskIds := h.taskIds
    record := by
      refine ⟨_, lookup_saveExperiment (by exact hrecords.experimentId) s.store, ?_, rfl, rfl, hcrash,
        fun task hmem ↦ ?_⟩
      · exact ⟨hrecords.experimentId, hrecords.mem, (hrecords.snoc hevent).rollout⟩
      · obtain ⟨result, hlogged⟩ := h.returned task hmem (h.drained hphase task hmem)
        exact Option.isSome_of_eq_some ((hrecords.rollout task result).mpr hlogged)
    logged := fun task result hlogged ↦ h.logged task result ((logged_snoc_of_ne hevent).mp hlogged)
    returned := fun task hmem hreturned ↦
      (h.returned task hmem hreturned).imp fun _ ↦ (logged_snoc_of_ne hevent).mpr
    drained := fun hphase ↦ nomatch hphase }

/-- An event that leaves the record alone, and tasks that ended as they are. -/
theorem Held.quiet {s' : Sampler} (h : Held runId panel events s)
    (hevent : ∀ task result observed, event ≠ .finished task result observed)
    (hopen : ∀ outcome, s.phase ≠ .ended outcome) (hopen' : ∀ outcome, s'.phase ≠ .ended outcome)
    (hid : s'.experimentId = s.experimentId) (hids : s'.taskIds = s.taskIds)
    (hstore : s'.store = s.store)
    (htasks : ∀ task, (s.tasks task).ended = true → s'.tasks task = s.tasks task)
    (hreturned : ∀ task, s'.tasks task = .returned → s.tasks task = .returned)
    (hdrained : s'.phase = .draining none → ∀ task ∈ panel, s.tasks task = .returned) :
    Held runId panel (events ++ [event]) s' where
  experimentId := hid.trans h.experimentId
  taskIds := hids.trans h.taskIds
  record := by
    obtain ⟨record, -, hfile, hrecords, hfinished, hcrash⟩ := h.opened hopen
    refine ⟨record, hstore ▸ hfile, hrecords.snoc hevent, ?_⟩
    cases hphase : s'.phase with
    | ended outcome => exact absurd hphase (hopen' outcome)
    | _ => exact ⟨hfinished, hcrash⟩
  logged task result hlogged := by
    have hended := h.logged task result ((logged_snoc_of_ne hevent).mp hlogged)
    rw [htasks task hended]
    exact hended
  returned task hmem hreturned' :=
    (h.returned task hmem (hreturned task hreturned')).imp fun _ ↦ (logged_snoc_of_ne hevent).mpr
  drained hphase task hmem := by
    have hbefore := hdrained hphase task hmem
    rw [htasks task (by rw [hbefore]; rfl)]
    exact hbefore

/-- A rollout goes on, or raises. -/
theorem Held.setTask {task : TaskId} {state : RunOne} (h : Held runId panel events s)
    (hrolling : s.phase.rolling = true)
    (hevent : ∀ task result observed, event ≠ .finished task result observed)
    (hrunning : (s.tasks task).ended = false) (hstate : state ≠ .returned) :
    Held runId panel (events ++ [event]) (s.setTask task state) := by
  have hopen := not_ended_of_rolling hrolling
  have hother {task' : TaskId} (heq : task' ≠ task) :
      (s.setTask task state).tasks task' = s.tasks task' := Function.update_of_ne heq _ _
  have hsame : (s.setTask task state).tasks task = state := Function.update_self ..
  refine h.quiet hevent hopen hopen rfl rfl rfl (fun task' hended ↦ hother ?_) (fun task' hreturned ↦ ?_)
    h.drained
  · rintro rfl
    cases hrunning.symm.trans hended
  · rwa [hother] at hreturned
    rintro rfl
    exact hstate (hsame.symm.trans hreturned)

end Quiet

/-- The record with one more result. -/
theorem Records.insert {record : ExperimentResult} {task : TaskId} {result : RolloutResult}
    {observed : Except String Unit} (h : Records runId panel events record) (hmem : task ∈ panel)
    (hunlogged : ∀ {result'}, ¬Logged events task result') :
    Records runId panel (events ++ [.finished task result observed])
      { record with tasks := record.tasks.insert task (some result) } where
  experimentId := h.experimentId
  mem task' := by
    rw [AList.mem_insert, h.mem]
    exact ⟨fun hor ↦ hor.elim (fun heq ↦ heq ▸ hmem) id, Or.inr⟩
  rollout task' result' := by
    rw [logged_snoc, ExperimentResult.rollout?_eq_some]
    by_cases heq : task' = task
    · subst heq
      rw [AList.lookup_insert, Option.some.injEq, Option.some.injEq, or_iff_right hunlogged]
      constructor
      · rintro rfl
        exact ⟨observed, rfl⟩
      · rintro ⟨_, hnow⟩
        cases hnow
        rfl
    · rw [AList.lookup_insert_ne heq, ← ExperimentResult.rollout?_eq_some, h.rollout, or_iff_left]
      rintro ⟨_, hnow⟩
      cases hnow
      exact heq rfl

/-- A rollout is logged: its task, which ran, has a result now, and the others are as they were. -/
theorem Held.finish {task : TaskId} {result : RolloutResult} {observed : Except String Unit}
    (h : Held runId panel events s) (hopen : ∀ outcome, s.phase ≠ .ended outcome)
    (hmem : task ∈ panel) (hid : result.taskId = task) (hrunning : s.tasks task = .running false) :
    Held runId panel (events ++ [.finished task result observed]) (s.finish task result observed) := by
  obtain ⟨record, hload, -, hrecords, hfinished, hcrash⟩ := h.opened hopen
  have hs : s.finish task result observed = { s with
      store := s.store.saveExperiment { record with tasks := record.tasks.insert task (some result) }
      tasks := Function.update s.tasks task (.told observed) } := by
    unfold Sampler.finish
    rw [RunStore.logRollout, hload, StateExcept.ok_bind, hid]
    rfl
  rw [hs]
  exact {
    experimentId := h.experimentId
    taskIds := h.taskIds
    record := by
      refine ⟨_, lookup_saveExperiment (by exact hrecords.experimentId) s.store, ?_, ?_⟩
      · exact hrecords.insert hmem
          (fun hbefore ↦ by
            have hended' := h.logged task _ hbefore
            rw [hrunning] at hended'
            cases hended')
      · cases hphase : s.phase with
        | ended outcome => exact absurd hphase (hopen outcome)
        | _ => exact ⟨hfinished, hcrash⟩
    logged := fun task' result' hlogged ↦ by
      dsimp only
      by_cases heq : task' = task
      · rw [heq, Function.update_self]
        exact RunOne.ended_told observed
      · rw [Function.update_of_ne heq]
        rcases logged_snoc.mp hlogged with hbefore | ⟨_, hnow⟩
        · exact h.logged task' result' hbefore
        · cases hnow
          exact absurd rfl heq
    returned := fun task' hmem' hreturned ↦ by
      by_cases heq : task' = task
      · exact ⟨result, logged_snoc.mpr (Or.inr ⟨observed, by rw [heq]⟩)⟩
      · dsimp only at hreturned
        rw [Function.update_of_ne heq] at hreturned
        exact (h.returned task' hmem' hreturned).imp fun _ hbefore ↦ logged_snoc.mpr (Or.inl hbefore)
    drained := fun hphase ↦ by
      have hreturned := h.drained hphase task hmem
      rw [hrunning] at hreturned
      cases hreturned }

/-- **One step.** -/
theorem Held.step {event : SamplerEvent} {s' : Sampler} (h : Held runId panel events s)
    (hstep : s.step event = some s') : Held runId panel (events ++ [event]) s' := by
  cases event with
  | loaded answer now =>
    simp only [Sampler.step] at hstep
    split at hstep
    · next hphase =>
      cases hstep
      exact h.quiet (by simp) (by simp [hphase]) (by simp) rfl rfl rfl (fun _ _ ↦ rfl) (fun _ ↦ id)
        (by simp)
    · next hphase =>
      cases hstep
      exact h.crash (by simp [hphase]) (by simp) now _
    · cases hstep
  | finished task result observed =>
    obtain ⟨⟨hrolling, hmem, hid, hrunning⟩, hs'⟩ := Option.ite_none_right_eq_some.mp hstep
    cases hs'
    exact h.finish (not_ended_of_rolling hrolling) (h.taskIds ▸ hmem) hid hrunning
  | failed task text =>
    obtain ⟨⟨hrolling, -, hrunning⟩, hs'⟩ := Option.ite_none_right_eq_some.mp hstep
    cases hs'
    exact h.setTask hrolling (by simp) hrunning (by simp)
  | outlived task =>
    obtain ⟨⟨hrolling, -, hrunning⟩, hs'⟩ := Option.ite_none_right_eq_some.mp hstep
    cases hs'
    exact h.setTask hrolling (by simp) (by rw [hrunning]; rfl) (by simp)
  | cancelled waiting =>
    obtain ⟨⟨hrolling, -⟩, hs'⟩ := Option.ite_none_right_eq_some.mp hstep
    cases hs'
    have hopen := not_ended_of_rolling hrolling
    cases waiting with
    | true =>
      exact h.quiet (by simp) hopen hopen rfl rfl rfl (fun _ ↦ RunOne.cancel_of_ended)
        (fun _ ↦ RunOne.cancel_eq_returned) h.drained
    | false =>
      exact h.quiet (by simp) hopen hopen rfl rfl rfl (fun _ _ ↦ rfl) (fun _ ↦ id) h.drained
  | resumed reason =>
    simp only [Sampler.step] at hstep
    split at hstep
    · next hphase =>
      obtain ⟨hgathers, hs'⟩ := Option.ite_none_right_eq_some.mp hstep
      cases hs'
      refine h.quiet (by simp) (by simp [hphase]) (by simp) rfl rfl rfl
        (fun _ ↦ RunOne.cancel_of_ended) (fun _ ↦ RunOne.cancel_eq_returned) fun hnone task hmem ↦ ?_
      obtain rfl : reason = none := by simpa using hnone
      rw [gathers, Bool.and_eq_true, List.all_eq_true] at hgathers
      simpa using hgathers.1 task (h.taskIds ▸ hmem)
    · cases hstep
  | drained now =>
    simp only [Sampler.step] at hstep
    split at hstep
    · next reason hphase =>
      obtain ⟨hended, hs'⟩ := Option.ite_none_right_eq_some.mp hstep
      split at hs'
      · cases hs'
        exact h.crash (by simp [hphase]) (by simp) now _
      · next hreason =>
        cases hs'
        obtain rfl : reason = none := by
          split at hreason
          · cases hreason
          · exact hreason
        exact h.complete hphase (by simp) now
    · cases hstep

/-! ## After a cancellation -/

theorem tasks_crash (s : Sampler) (now : Timestamp) (reason : String) :
    (s.crash now reason).tasks = s.tasks := by
  rw [crash]
  split <;> rfl

theorem tasks_complete (s : Sampler) (now : Timestamp) : (s.complete now).tasks = s.tasks := by
  rw [complete]
  split <;> rfl

theorem running_setTask {task task' : TaskId} {state : RunOne}
    (h : (s.setTask task state).tasks task' = .running false) :
    task' = task ∧ state = .running false ∨ s.tasks task' = .running false := by
  by_cases heq : task' = task
  · subst heq
    exact Or.inl ⟨rfl, (Function.update_self ..).symm.trans h⟩
  · exact Or.inr ((Function.update_of_ne heq _ _).symm.trans h)

theorem running_finish {task task' : TaskId} {result : RolloutResult} {observed : Except String Unit}
    (h : (s.finish task result observed).tasks task' = .running false) :
    s.tasks task' = .running false := by
  unfold finish at h
  split at h
  · exact (running_setTask h).resolve_left (by simp)
  · refine (running_setTask h).resolve_left fun hsame ↦ ?_
    cases (RunOne.ended_told observed).symm.trans (congrArg RunOne.ended hsame.2)

/-- A rollout that is not cancelled was not, unless it outlives its cancellation just now. -/
theorem running_step {event : SamplerEvent} {s' : Sampler} (hstep : s.step event = some s')
    {task : TaskId} (hrunning : s'.tasks task = .running false) :
    event = .outlived task ∨ s.tasks task = .running false ∧ event.cancelsAll = false := by
  cases event with
  | loaded answer now =>
    simp only [Sampler.step] at hstep
    split at hstep
    · cases hstep
      exact Or.inr ⟨hrunning, rfl⟩
    · cases hstep
      rw [tasks_crash] at hrunning
      exact Or.inr ⟨hrunning, rfl⟩
    · cases hstep
  | finished task' result observed =>
    obtain ⟨-, hs'⟩ := Option.ite_none_right_eq_some.mp hstep
    cases hs'
    exact Or.inr ⟨running_finish hrunning, rfl⟩
  | failed task' text =>
    obtain ⟨-, hs'⟩ := Option.ite_none_right_eq_some.mp hstep
    cases hs'
    exact Or.inr ⟨(running_setTask hrunning).resolve_left (by simp), rfl⟩
  | outlived task' =>
    obtain ⟨-, hs'⟩ := Option.ite_none_right_eq_some.mp hstep
    cases hs'
    rcases running_setTask hrunning with ⟨rfl, -⟩ | hbefore
    · exact Or.inl rfl
    · exact Or.inr ⟨hbefore, rfl⟩
  | cancelled waiting =>
    obtain ⟨-, hs'⟩ := Option.ite_none_right_eq_some.mp hstep
    cases hs'
    cases waiting with
    | true => exact absurd hrunning (RunOne.cancel_ne_running _)
    | false => exact Or.inr ⟨hrunning, rfl⟩
  | resumed reason =>
    simp only [Sampler.step] at hstep
    split at hstep
    · obtain ⟨-, hs'⟩ := Option.ite_none_right_eq_some.mp hstep
      cases hs'
      exact absurd hrunning (RunOne.cancel_ne_running _)
    · cases hstep
  | drained now =>
    simp only [Sampler.step] at hstep
    split at hstep
    · obtain ⟨-, hs'⟩ := Option.ite_none_right_eq_some.mp hstep
      split at hs'
      · cases hs'
        rw [tasks_crash] at hrunning
        exact Or.inr ⟨hrunning, rfl⟩
      · cases hs'
        rw [tasks_complete] at hrunning
        exact Or.inr ⟨hrunning, rfl⟩
    · cases hstep

/-- **After a cancellation of all, only a rollout that outlives it is logged.** -/
theorem logged_after_cancel {event : SamplerEvent} {middle s' : Sampler} {after : List SamplerEvent}
    (hcancels : event.cancelsAll = true) (hstep : s.step event = some middle)
    (hrun : run step middle after = some s') {task : TaskId} {result : RolloutResult}
    (hlogged : Logged after task result) : .outlived task ∈ after := by
  have hall : (∀ task, s'.tasks task = .running false → .outlived task ∈ after) ∧
      ∀ task result, Logged after task result → .outlived task ∈ after := by
    refine run_invariant (I := fun after s' ↦
      (∀ task, s'.tasks task = .running false → .outlived task ∈ after) ∧
        ∀ task result, Logged after task result → .outlived task ∈ after) ?_ ?_ hrun
    · refine ⟨fun task hrunning ↦ ?_, fun task result hlogged ↦ ?_⟩
      · rcases running_step hstep hrunning with rfl | ⟨-, hkeeps⟩
        · cases hcancels
        · cases hcancels.symm.trans hkeeps
      · obtain ⟨observed, hmem⟩ := hlogged
        cases hmem
    · rintro after s₁ event s₂ ⟨hrunning, hlogged⟩ hstep
      refine ⟨fun task htask ↦ ?_, fun task result htask ↦ ?_⟩
      · rcases running_step hstep htask with rfl | ⟨hbefore, -⟩
        · exact List.mem_append_right _ (List.mem_singleton_self _)
        · exact List.mem_append_left _ (hrunning task hbefore)
      · rcases logged_snoc.mp htask with hbefore | ⟨observed, rfl⟩
        · exact List.mem_append_left _ (hlogged task result hbefore)
        · obtain ⟨⟨-, -, -, hbefore⟩, -⟩ := Option.ite_none_right_eq_some.mp hstep
          exact List.mem_append_left _ (hrunning task hbefore)
  exact hall.2 task result hlogged

/-- Nothing happens in an experiment that ended. -/
theorem step_ended {outcome : Except String ExperimentResult} (h : s.phase = .ended outcome)
    (event : SamplerEvent) : s.step event = none := by
  cases event <;> simp [step, h, SamplerPhase.rolling]

/-! ## Finality -/

/-- A reader sees no record that is finished, not crashed, and without a result. -/
def Readable (panel : List TaskId) (record : ExperimentResult) : Prop :=
  record.finishedAt.isSome → record.crashReason = none →
    ∀ task ∈ panel, (record.rollout? task).isSome

theorem Stamped.readable {record : ExperimentResult} {phase : SamplerPhase}
    (h : Stamped panel record phase) : Readable panel record := by
  intro hfinished hcrash
  cases phase with
  | ended outcome =>
    cases outcome with
    | ok completed => exact h.2.2.2
    | error reason =>
      cases h.1.symm.trans hcrash
  | _ =>
    rw [h.1] at hfinished
    cases hfinished

end Sampler

open Sampler

/-- **The finality of an experiment.** -/
theorem experiment_finality (store : RunStore) (runId : String) (gitCommitHash : Sha)
    (measurementIdentity : MeasurementIdentity) (startedAt : Timestamp) (panel : List TaskId)
    (events : List SamplerEvent) {s : Sampler}
    (h : run step (start store runId gitCommitHash measurementIdentity startedAt panel) events =
      some s) :
    ∃ record, s.store.files.lookup runId = some record ∧ Readable panel record ∧
      (∀ task result, record.rollout? task = some result ↔ Logged events task result) ∧
      (∀ completed, s.phase = .ended (.ok completed) → record = completed ∧
        record.finishedAt.isSome ∧ record.crashReason = none ∧
        (∀ task, task ∈ record.tasks ↔ task ∈ panel) ∧
        ∀ task ∈ panel, ∃ result, record.rollout? task = some result ∧ Logged events task result) ∧
      (∀ reason, s.phase = .ended (.error reason) → record.crashReason = some reason ∧
        record.finishedAt.isSome) ∧
      (∀ outcome event, s.phase = .ended outcome → s.step event = none) ∧
      ∀ before event after, events = before ++ event :: after → event.cancelsAll = true →
        ∀ task result, Logged after task result → .outlived task ∈ after := by
  have hheld : Held runId panel events s := run_invariant
    (start_held store runId gitCommitHash measurementIdentity startedAt panel)
    (fun _ _ _ _ hbefore hstep ↦ hbefore.step hstep) h
  obtain ⟨record, hfile, hrecords, hstamped⟩ := hheld.record
  refine ⟨record, hfile, hstamped.readable, hrecords.rollout, fun completed hphase ↦ ?_,
    fun reason hphase ↦ ?_, fun outcome event hphase ↦ step_ended hphase event, ?_⟩
  · rw [hphase] at hstamped
    obtain ⟨hsame, hfinished, hcrash, hall⟩ := hstamped
    refine ⟨hsame, hfinished, hcrash, hrecords.mem, fun task hmem ↦ ?_⟩
    obtain ⟨result, hresult⟩ := Option.isSome_iff_exists.mp (hall task hmem)
    exact ⟨result, hresult, (hrecords.rollout task result).mp hresult⟩
  · rw [hphase] at hstamped
    exact hstamped
  · rintro before event after rfl hcancels task result hlogged
    obtain ⟨middle, -, hrest⟩ := run_split h
    obtain ⟨next, hstep, hafter⟩ := Option.bind_eq_some_iff.mp hrest
    exact logged_after_cancel hcancels hstep hafter hlogged

/-! ## Two tasks -/

namespace Sampler

/-- An experiment over two tasks. -/
def twoRollouts : Sampler := start {} "exp" "sha" ⟨"config", "provider", "replay"⟩ 0 ["a", "b"]

def solved (task : TaskId) : RolloutResult where
  taskId := task
  failureMode := .solved

end Sampler

theorem experiment_finality_two :
    ∃ s record, run step twoRollouts [.loaded (.ok ()) 0, .finished "b" (solved "b") (.ok ()),
        .finished "a" (solved "a") (.ok ()), .resumed none, .drained 1] = some s ∧
      s.store.files.lookup "exp" = some record ∧ Readable ["a", "b"] record := by
  obtain ⟨record, hfile, hreadable, -⟩ := experiment_finality {} "exp" "sha"
    ⟨"config", "provider", "replay"⟩ 0 ["a", "b"] [.loaded (.ok ()) 0,
      .finished "b" (solved "b") (.ok ()), .finished "a" (solved "a") (.ok ()), .resumed none,
      .drained 1] rfl
  exact ⟨_, record, rfl, hfile, hreadable⟩

/-- **A rollout may be logged after another one failed.**  It ends before the experiment goes on and
cancels it. -/
theorem logged_after_failure :
    ∃ before after s record, run step twoRollouts
        (before ++ .failed "a" "RuntimeError: boom" :: after) = some s ∧
      s.phase = .ended (.error "RuntimeError: boom") ∧
      s.store.files.lookup "exp" = some record ∧ record.rollout? "b" = some (solved "b") ∧
      ¬Logged before "b" (solved "b") := by
  refine ⟨[.loaded (.ok ()) 0], [.finished "b" (solved "b") (.ok ()),
    .resumed (some "RuntimeError: boom"), .drained 1], _, _, rfl, rfl, rfl, rfl, ?_⟩
  rintro ⟨observed, hmem⟩
  simp at hmem

end HarnessTraining
