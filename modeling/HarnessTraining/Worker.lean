import HarnessTraining.Measurement
import HarnessTraining.Rollout.Sampler

/-!
# The worker of a measurement

`_experiment_worker` of `src/worker.py`, under the parent of `src/measurement.py`: the worker runs
`run_experiment`, reports through the pipe, may die at any moment, and ends with exit code 0 only after
`run_experiment` returned.

* `IsolatedRun.step` — what the worker, the parent and the clock do.
* `IsolatedRun.Isolated` — the invariant of a run.
* `isolated_experiment` — the result of a measurement is what `run_experiment` returned, and a failure
  comes with every rollout that was logged.
-/

set_option autoImplicit false

namespace HarnessTraining

open Transitions

/-- A `FailureMode`, as it is reported. -/
def FailureMode.text : FailureMode → String
  | solved => "solved"
  | verifiedRejected => "verified_rejected"
  | hitStepCap => "hit_step_cap"
  | hitTimeout => "hit_timeout"
  | verifyTimeout => "verify_timeout"
  | noValidAction => "no_valid_action"
  | crash => "crash"
  | unscorableInfra => "unscorable_infra"

namespace SamplerEvent

/-- What a step of the experiment reports. -/
def report? : SamplerEvent → Option Report
  | finished task result (.ok ()) => some (.task task result.failureMode.text)
  | _ => none

/-- The result of a task. -/
def resultOf? (task : TaskId) : SamplerEvent → Option RolloutResult
  | finished task' result _ => if task' = task then some result else none
  | _ => none

end SamplerEvent

/-- The failure mode that is reported of a task. -/
def Report.modeOf? (task : TaskId) : Report → Option String
  | .task task' mode => if task' = task then some mode else none
  | _ => none

/-- The event is the worker's. -/
def MeasurementEvent.ofWorker : MeasurementEvent → Bool
  | sends _ | saves _ | closes | exits .. => true
  | _ => false

/-- What the observer is told of a step: only of a result that was logged. -/
def Sampler.report? (s : Sampler) : SamplerEvent → Option Report
  | .finished task result observed =>
    if s.tasks task = .returned then (SamplerEvent.finished task result observed).report? else none
  | _ => none

inductive IsolatedEvent where
  | heartbeat
  | logs (line : String)
  /-- `run_experiment` saves its record. -/
  | begins (gitCommitHash : Sha) (measurementIdentity : MeasurementIdentity) (startedAt : Timestamp)
  /-- `experiment_started` -/
  | announces
  | samples (event : SamplerEvent)
  | closes
  | exits (exitcode : ℤ) (torn : Bool)
  /-- The parent goes on, or time does. -/
  | outside (event : MeasurementEvent)

/-- A measurement whose worker runs `run_experiment`. -/
structure IsolatedRun where
  measurement : Measurement
  /-- `run_experiment`, once it has saved its record. -/
  sampler : Option Sampler := none
  announced : Bool := false

namespace IsolatedRun

variable (repr : String → String) (runId : String) (taskIds : List TaskId)

def start (store : RunStore) (clock : ℚ) : IsolatedRun where
  measurement := .start store clock

def measure (t : IsolatedRun) (event : MeasurementEvent) : Option IsolatedRun :=
  (t.measurement.step repr taskIds event).map fun measurement ↦ { t with measurement := measurement }

def send (t : IsolatedRun) (report : Report) : Option IsolatedRun :=
  t.measure repr taskIds (.sends report.data)

def save (t : IsolatedRun) (sampler : Sampler) : Option IsolatedRun :=
  (t.measure repr taskIds (.saves sampler.store)).map fun t ↦ { t with sampler := some sampler }

/-- `run_experiment` has returned. -/
def completed (t : IsolatedRun) : Bool :=
  match t.sampler.map Sampler.phase with
  | some (.ended (.ok _)) => true
  | _ => false

/-- What an event does, or nothing if it cannot happen. -/
def step (t : IsolatedRun) : IsolatedEvent → Option IsolatedRun
  | .heartbeat => t.send repr taskIds .heartbeat
  | .logs line => t.send repr taskIds (.log line)
  | .begins gitCommitHash measurementIdentity startedAt =>
    if t.sampler = none then
      t.save repr taskIds
        (.start t.measurement.store runId gitCommitHash measurementIdentity startedAt taskIds)
    else none
  | .announces =>
    if t.sampler.isSome ∧ t.announced = false then
      (t.send repr taskIds (.started runId)).map fun t ↦ { t with announced := true }
    else none
  | .samples event =>
    if t.announced then do
      let sampler ← t.sampler
      let next ← sampler.step event
      let saved ← t.save repr taskIds next
      match next.report? event with
      | some report => saved.send repr taskIds report
      | none => some saved
    else none
  | .closes => t.measure repr taskIds .closes
  | .exits exitcode torn =>
    if exitcode = 0 ∧ t.completed = false then none else t.measure repr taskIds (.exits exitcode torn)
  | .outside event => if event.ofWorker then none else t.measure repr taskIds event

end IsolatedRun

/-! ## What `run_experiment` reports -/

theorem forM_ok {α : Type} {f : α → Except String Unit} : ∀ {items : List α},
    (∀ item ∈ items, f item = .ok ()) → items.forM f = .ok ()
  | [], _ => rfl
  | item :: items, h => by
    rw [List.forM, h item List.mem_cons_self]
    exact forM_ok fun item' hmem ↦ h item' (List.mem_cons_of_mem item hmem)

/-- What the validator of a record asks for. -/
theorem check_ok {record : ExperimentResult}
    (hcrashed : record.crashReason.isSome → record.finishedAt.isSome)
    (hresults : record.finishedAt.isSome → record.crashReason = none → ∀ task ∈ record.tasks,
      ∃ result, record.rollout? task = some result ∧ result.taskId = task) :
    record.check = .ok () := by
  have hcrash : ¬(record.crashReason.isSome ∧ record.finishedAt.isNone) := by
    rintro ⟨hcrash, hnone⟩
    rw [Option.isNone_iff_eq_none] at hnone
    have hsome := hcrashed hcrash
    rw [hnone] at hsome
    cases hsome
  rw [ExperimentResult.check, if_neg hcrash]
  change (if _ then _ else _) = _
  split
  · next hfinished =>
    refine forM_ok fun entry hmem ↦ ?_
    have hlookup : record.tasks.lookup entry.1 = some entry.2 := AList.mem_lookup_iff.mpr hmem
    have hin : entry.1 ∈ record.tasks := AList.lookup_isSome.mp (Option.isSome_of_eq_some hlookup)
    obtain ⟨result, hresult, hid⟩ :=
      hresults hfinished.1 (Option.isNone_iff_eq_none.mp hfinished.2) entry.1 hin
    rw [ExperimentResult.rollout?_eq_some, hlookup, Option.some_inj] at hresult
    rw [hresult]
    exact if_neg (not_not.mpr hid)
  · rfl

namespace Sampler

variable {runId : String} {panel : List TaskId} {events : List SamplerEvent} {s s' : Sampler}

theorem tasks_setTask (s : Sampler) (task : TaskId) (state : RunOne) :
    (s.setTask task state).tasks task = state :=
  Function.update_self ..

/-- A rollout that ended stays as it is. -/
theorem tasks_step {event : SamplerEvent} (hstep : s.step event = some s') {task : TaskId}
    (hended : (s.tasks task).ended = true) : s'.tasks task = s.tasks task := by
  have hset {task' : TaskId} {state : RunOne} (hother : task ≠ task') :
      (s.setTask task' state).tasks task = s.tasks task := Function.update_of_ne hother _ _
  cases event with
  | loaded answer now =>
    simp only [Sampler.step] at hstep
    split at hstep
    · cases hstep
      rfl
    · cases hstep
      rw [tasks_crash]
    · cases hstep
  | finished task' result observed =>
    obtain ⟨⟨-, -, -, hrunning⟩, hs'⟩ := Option.ite_none_right_eq_some.mp hstep
    cases hs'
    have hother : task ≠ task' := by
      rintro rfl
      rw [hrunning] at hended
      cases hended
    unfold finish
    split
    · exact hset hother
    · exact hset hother
  | failed task' text =>
    obtain ⟨⟨-, -, hrunning⟩, hs'⟩ := Option.ite_none_right_eq_some.mp hstep
    cases hs'
    refine hset ?_
    rintro rfl
    cases hended.symm.trans hrunning
  | outlived task' =>
    obtain ⟨⟨-, -, hrunning⟩, hs'⟩ := Option.ite_none_right_eq_some.mp hstep
    cases hs'
    refine hset ?_
    rintro rfl
    rw [hrunning] at hended
    cases hended
  | cancelled waiting =>
    obtain ⟨-, hs'⟩ := Option.ite_none_right_eq_some.mp hstep
    cases hs'
    cases waiting with
    | true => exact RunOne.cancel_of_ended hended
    | false => rfl
  | resumed reason =>
    simp only [Sampler.step] at hstep
    split at hstep
    · obtain ⟨-, hs'⟩ := Option.ite_none_right_eq_some.mp hstep
      cases hs'
      exact RunOne.cancel_of_ended hended
    · cases hstep
  | drained now =>
    simp only [Sampler.step] at hstep
    split at hstep
    · obtain ⟨-, hs'⟩ := Option.ite_none_right_eq_some.mp hstep
      split at hs'
      · cases hs'
        rw [tasks_crash]
      · cases hs'
        rw [tasks_complete]
    · cases hstep

theorem phase_crash (s : Sampler) (now : Timestamp) (reason : String) (completed : ExperimentResult) :
    (s.crash now reason).phase ≠ .ended (.ok completed) := by
  rw [crash]
  split
  · exact fun h ↦ by cases h
  · exact fun h ↦ by cases h

theorem phase_finish (s : Sampler) (task : TaskId) (result : RolloutResult)
    (observed : Except String Unit) : (s.finish task result observed).phase = s.phase := by
  unfold finish
  split
  · rfl
  · rfl

/-- An experiment returns only after all rollouts did. -/
theorem returned_step {event : SamplerEvent} {completed : ExperimentResult} (h : Held runId panel events s)
    (hstep : s.step event = some s') (hphase : s'.phase = .ended (.ok completed)) :
    ∀ task ∈ panel, s'.tasks task = .returned := by
  cases event with
  | loaded answer now =>
    simp only [Sampler.step] at hstep
    split at hstep
    · cases hstep
      cases hphase
    · cases hstep
      exact absurd hphase (phase_crash _ _ _ _)
    · cases hstep
  | finished task result observed =>
    obtain ⟨⟨hrolling, -⟩, hs'⟩ := Option.ite_none_right_eq_some.mp hstep
    cases hs'
    rw [phase_finish] at hphase
    exact absurd hphase (not_ended_of_rolling hrolling _)
  | failed | outlived =>
    obtain ⟨⟨hrolling, -⟩, hs'⟩ := Option.ite_none_right_eq_some.mp hstep
    cases hs'
    exact absurd hphase (not_ended_of_rolling hrolling _)
  | cancelled waiting =>
    obtain ⟨⟨hrolling, -⟩, hs'⟩ := Option.ite_none_right_eq_some.mp hstep
    cases hs'
    refine absurd ?_ (not_ended_of_rolling hrolling (.ok completed))
    cases waiting with
    | true => exact hphase
    | false => exact hphase
  | resumed reason =>
    simp only [Sampler.step] at hstep
    split at hstep
    · obtain ⟨-, hs'⟩ := Option.ite_none_right_eq_some.mp hstep
      cases hs'
      cases hphase
    · cases hstep
  | drained now =>
    simp only [Sampler.step] at hstep
    split at hstep
    · next reason hdraining =>
      obtain ⟨hended, hs'⟩ := Option.ite_none_right_eq_some.mp hstep
      split at hs'
      · cases hs'
        exact absurd hphase (phase_crash _ _ _ _)
      · next hreason =>
        cases hs'
        obtain rfl : reason = none := by
          split at hreason
          · cases hreason
          · exact hreason
        rw [tasks_complete]
        exact h.drained hdraining
    · cases hstep

/-- What is reported, at a state of the experiment. -/
structure Finished (panel : List TaskId) (events : List SamplerEvent) (s : Sampler) : Prop where
  taskId : ∀ task result observed, .finished task result observed ∈ events → result.taskId = task
  once : ∀ task, (events.filterMap (SamplerEvent.resultOf? task)).length ≤ 1
  raised : ∀ task result text, .finished task result (.error text) ∈ events → s.tasks task ≠ .returned
  returned : ∀ completed, s.phase = .ended (.ok completed) → ∀ task ∈ panel, s.tasks task = .returned

theorem resultOf?_eq_some {event : SamplerEvent} {task : TaskId} {result : RolloutResult} :
    event.resultOf? task = some result ↔ ∃ observed, event = .finished task result observed := by
  cases event with
  | finished task' result' observed =>
    rw [SamplerEvent.resultOf?, Option.ite_none_right_eq_some]
    constructor
    · rintro ⟨rfl, hresult⟩
      obtain rfl := Option.some.inj hresult
      exact ⟨observed, rfl⟩
    · rintro ⟨observed', h⟩
      cases h
      exact ⟨rfl, rfl⟩
  | _ => simp [SamplerEvent.resultOf?]

theorem mem_results {task : TaskId} {result : RolloutResult} :
    result ∈ events.filterMap (SamplerEvent.resultOf? task) ↔ Logged events task result := by
  rw [List.mem_filterMap]
  constructor
  · rintro ⟨event, hmem, hresult⟩
    obtain ⟨observed, rfl⟩ := resultOf?_eq_some.mp hresult
    exact ⟨observed, hmem⟩
  · rintro ⟨observed, hmem⟩
    exact ⟨_, hmem, resultOf?_eq_some.mpr ⟨observed, rfl⟩⟩

theorem finished_start (store : RunStore) (gitCommitHash : Sha) (measurementIdentity : MeasurementIdentity)
    (startedAt : Timestamp) :
    Finished panel [] (start store runId gitCommitHash measurementIdentity startedAt panel) where
  taskId _ _ _ h := by cases h
  once _ := Nat.zero_le _
  raised _ _ _ h := by cases h
  returned _ h := by cases h

theorem Finished.step {event : SamplerEvent} (h : Finished panel events s) (hheld : Held runId panel events s)
    (hstep : s.step event = some s') : Finished panel (events ++ [event]) s' where
  taskId task result observed hmem := by
    rcases List.mem_append.mp hmem with hbefore | hnow
    · exact h.taskId task result observed hbefore
    · obtain rfl := List.mem_singleton.mp hnow
      exact (Option.ite_none_right_eq_some.mp hstep).1.2.2.1
  once task := by
    rw [List.filterMap_append, List.length_append]
    cases hresult : event.resultOf? task with
    | none => simpa [hresult] using h.once task
    | some result =>
      obtain ⟨observed, rfl⟩ := resultOf?_eq_some.mp hresult
      have hrunning := (Option.ite_none_right_eq_some.mp hstep).1.2.2.2
      have hnone : events.filterMap (SamplerEvent.resultOf? task) = [] := by
        rw [List.eq_nil_iff_forall_not_mem]
        intro result' hbefore
        have hended := hheld.logged task result' (mem_results.mp hbefore)
        rw [hrunning] at hended
        cases hended
      rw [hnone]
      simp [hresult]
  raised task result text hmem := by
    rcases List.mem_append.mp hmem with hbefore | hnow
    · rw [tasks_step hstep (hheld.logged task result ⟨_, hbefore⟩)]
      exact h.raised task result text hbefore
    · obtain rfl := List.mem_singleton.mp hnow
      obtain ⟨-, hs'⟩ := Option.ite_none_right_eq_some.mp hstep
      cases hs'
      unfold finish
      split
      · rw [tasks_setTask]
        exact fun hreturned ↦ by cases hreturned
      · rw [tasks_setTask]
        exact fun hreturned ↦ by cases hreturned
  returned completed hphase := returned_step hheld hstep hphase

/-- A result that was logged is the one in the record. -/
theorem results_eq {record : ExperimentResult} (h : Finished panel events s)
    (hrecords : Records runId panel events record) (task : TaskId) :
    events.filterMap (SamplerEvent.resultOf? task) = (record.rollout? task).toList := by
  have hmem (result : RolloutResult) : result ∈ events.filterMap (SamplerEvent.resultOf? task) ↔
      record.rollout? task = some result := mem_results.trans (hrecords.rollout task result).symm
  have honce := h.once task
  cases hresults : events.filterMap (SamplerEvent.resultOf? task) with
  | nil =>
    cases hrollout : record.rollout? task with
    | none => rfl
    | some result =>
      have hin := (hmem result).mpr hrollout
      rw [hresults] at hin
      cases hin
  | cons result results =>
    rw [hresults, List.length_cons] at honce
    obtain rfl : results = [] := List.length_eq_zero_iff.mp (by omega)
    rw [(hmem result).mp (by rw [hresults]; exact List.mem_cons_self)]
    rfl

/-- The modes that the observer is told of a task. -/
def modes (events : List SamplerEvent) (task : TaskId) : List String :=
  events.filterMap fun event ↦ event.report?.bind (Report.modeOf? task)

theorem modes_eq_some {event : SamplerEvent} {task : TaskId} {mode : String}
    (h : event.report?.bind (Report.modeOf? task) = some mode) :
    (event.resultOf? task).map (fun result ↦ result.failureMode.text) = some mode := by
  cases event with
  | finished task' result observed =>
    cases observed with
    | error text => cases h
    | ok =>
      rw [SamplerEvent.resultOf?]
      rw [SamplerEvent.report?, Option.bind_some, Report.modeOf?] at h
      split_ifs at h ⊢
      exact h
  | _ => cases h

/-- What is told of a task is in the record. -/
theorem mem_modes {record : ExperimentResult} (hrecords : Records runId panel events record)
    {task : TaskId} {mode : String} (h : mode ∈ modes events task) :
    ∃ result, record.rollout? task = some result ∧ result.failureMode.text = mode := by
  obtain ⟨event, hmem, hmode⟩ := List.mem_filterMap.mp h
  obtain ⟨result, hresult, htext⟩ := Option.map_eq_some_iff.mp (modes_eq_some hmode)
  refine ⟨result, (hrecords.rollout task result).mpr (mem_results.mp ?_), htext⟩
  exact List.mem_filterMap.mpr ⟨event, hmem, hresult⟩

/-- Of an experiment that returned, every result was told, once. -/
theorem modes_completed {completed record : ExperimentResult} (h : Finished panel events s)
    (hrecords : Records runId panel events record)
    (hphase : s.phase = .ended (.ok completed)) (task : TaskId) :
    modes events task =
      ((record.rollout? task).map fun result ↦ result.failureMode.text).toList := by
  have hpanel {result : RolloutResult} (hlogged : Logged events task result) : task ∈ panel := by
    rw [← hrecords.mem, ← AList.lookup_isSome,
      ExperimentResult.rollout?_eq_some.mp ((hrecords.rollout task result).mpr hlogged)]
    rfl
  have hmodes : modes events task =
      (events.filterMap (SamplerEvent.resultOf? task)).map fun result ↦ result.failureMode.text := by
    rw [List.map_filterMap, modes]
    refine List.filterMap_congr fun event hmem ↦ ?_
    cases hresult : event.resultOf? task with
    | none =>
      rw [Option.map_none, Option.eq_none_iff_forall_ne_some]
      intro mode hmode
      have hsome := modes_eq_some hmode
      rw [hresult] at hsome
      cases hsome
    | some result =>
      obtain ⟨observed, rfl⟩ := resultOf?_eq_some.mp hresult
      cases observed with
      | error text =>
        have hreturned := h.returned completed hphase task (hpanel ⟨_, hmem⟩)
        exact absurd hreturned (h.raised task result text hmem)
      | ok =>
        rw [SamplerEvent.report?, Option.bind_some, Report.modeOf?, if_pos rfl]
        rfl
  rw [hmodes, results_eq h hrecords, Option.toList_map]

/-- While an experiment goes on, every result is logged, and told. -/
theorem report?_step {event : SamplerEvent} (h : Held runId panel events s)
    (hstep : s.step event = some s') : s'.report? event = event.report? := by
  cases event with
  | finished task result observed =>
    obtain ⟨⟨hrolling, -⟩, hs'⟩ := Option.ite_none_right_eq_some.mp hstep
    cases hs'
    rw [Sampler.report?]
    cases observed with
    | error text =>
      split
      · rfl
      · rfl
    | ok =>
      obtain ⟨record, hload, -⟩ := h.opened (not_ended_of_rolling hrolling)
      refine if_pos ?_
      unfold finish
      rw [RunStore.logRollout, hload, StateExcept.ok_bind]
      exact tasks_setTask _ _ _
  | _ => rfl

/-- The record of an experiment can be read at any time. -/
theorem load_held {record : ExperimentResult} (hfinished : Finished panel events s)
    (hfile : s.store.files.lookup runId = some record)
    (hrecords : Records runId panel events record) (hstamped : Stamped panel record s.phase) :
    s.store.loadExperiment runId = .ok record := by
  have hcheck : record.check = .ok () := by
    refine check_ok (fun hcrashed ↦ ?_) fun hdone huncrashed task hmem ↦ ?_
    · rw [Option.isSome_iff_exists] at hcrashed
      obtain ⟨reason, hreason⟩ := hcrashed
      cases hphase : s.phase with
      | ended outcome =>
        rw [hphase] at hstamped
        cases outcome with
        | ok completed => exact hstamped.2.1
        | error text => exact hstamped.2
      | _ =>
        rw [hphase] at hstamped
        cases hreason.symm.trans hstamped.2
    · have hread := hstamped.readable hdone huncrashed task ((hrecords.mem task).mp hmem)
      obtain ⟨result, hresult⟩ := Option.isSome_iff_exists.mp hread
      obtain ⟨observed, hevent⟩ := (hrecords.rollout task result).mp hresult
      exact ⟨result, hresult, hfinished.taskId task result observed hevent⟩
  rw [RunStore.loadExperiment, hfile]
  dsimp only
  rw [hcheck]
  rfl

end Sampler

/-! ## The invariant -/

namespace Measurement

variable {taskIds : List TaskId} {s s' : Measurement}

/-- The parent saves nothing before it ends. -/
theorem store_transition {event : MeasurementEvent} (h : Transition taskIds s event s')
    (hevent : ∀ store, event ≠ .saves store) (hopen : ∀ outcome, s'.phase ≠ .ended outcome) :
    s'.store = s.store := by
  cases h with
  | saves store => exact absurd rfl (hevent store)
  | ends now hphase hexited hconcludes => cases hconcludes <;> exact absurd rfl (hopen _)
  | _ => rfl

theorem exitcode_transition {event : MeasurementEvent} (h : Transition taskIds s event s')
    (hevent : ∀ exitcode torn, event ≠ .exits exitcode torn) : s'.exitcode = s.exitcode := by
  cases h with
  | exits exitcode torn => exact absurd rfl (hevent exitcode torn)
  | ends now hphase hexited hconcludes => cases hconcludes <;> rfl
  | _ => rfl

end Measurement

namespace IsolatedRun

open Sampler

/-- What `run_experiment` was told to do. -/
def samplerEvents : List IsolatedEvent → List SamplerEvent
  | [] => []
  | .samples event :: events => event :: samplerEvents events
  | _ :: events => samplerEvents events

theorem samplerEvents_append (events more : List IsolatedEvent) :
    samplerEvents (events ++ more) = samplerEvents events ++ samplerEvents more := by
  induction events with
  | nil => rfl
  | cons event events ih => cases event <;> simp [samplerEvents, ih]

/-- What the worker has reported. -/
structure Reported (runId : String) (announced : Bool) (events : List SamplerEvent)
    (reports : List Report) : Prop where
  started : ∀ experimentId, .started experimentId ∈ reports → experimentId = runId
  announced : announced = true ↔ .started runId ∈ reports
  modes : ∀ task, reports.filterMap (Report.modeOf? task) = modes events task

/-- The measurement in which these reports were sent. -/
def Measured (repr : String → String) (taskIds : List TaskId) (store : RunStore) (clock : ℚ)
    (measurement : Measurement) (reports : List Report) : Prop :=
  ∃ events, run (Measurement.step repr taskIds) (.start store clock) events = some measurement ∧
    Measurement.sends events = reports.map Report.data

/-- How the measurement of an experiment ends. -/
structure Final (runId : String) (taskIds : List TaskId) (events : List SamplerEvent) (t : IsolatedRun)
    (outcome : Except MeasurementFailure ExperimentResult) : Prop where
  returned : ∀ result, outcome = .ok result →
    ∃ s, t.sampler = some s ∧ s.phase = .ended (.ok result)
  crashed : ∀ message result, outcome = .error (.measurementError message (some result)) →
    t.sampler.isSome ∧ Records runId taskIds events result ∧ result.finishedAt.isSome ∧
      result.crashReason.isSome
  unannounced : ∀ message, outcome = .error (.measurementError message none) → t.announced = false
  panel : ∀ message, outcome ≠ .error (.wrongPanel message)
  readable : ∀ text, outcome ≠ .error (.unreadable text)

/-- **The invariant of a run.** -/
structure Isolated (repr : String → String) (runId : String) (taskIds : List TaskId) (store : RunStore)
    (clock : ℚ) (events : List IsolatedEvent) (t : IsolatedRun) : Prop where
  measured : ∃ reports, Measured repr taskIds store clock t.measurement reports ∧
    Reported runId t.announced (samplerEvents events) reports
  idle : t.sampler = none → samplerEvents events = [] ∧ t.announced = false
  held : ∀ s, t.sampler = some s → Held runId taskIds (samplerEvents events) s ∧
    Finished taskIds (samplerEvents events) s
  store : ∀ s, t.sampler = some s → (∀ outcome, t.measurement.phase ≠ .ended outcome) →
    t.measurement.store = s.store
  exited : t.measurement.exitcode = some 0 → t.completed = true
  final : ∀ outcome, t.measurement.phase = .ended outcome →
    Final runId taskIds (samplerEvents events) t outcome

section Final

variable {repr : String → String} {runId : String} {taskIds : List TaskId} {store : RunStore} {clock : ℚ}
  {events : List IsolatedEvent} {t t' : IsolatedRun}

theorem completed_iff : t.completed = true ↔
    ∃ s completed, t.sampler = some s ∧ s.phase = .ended (.ok completed) := by
  rw [completed]
  constructor
  · intro h
    split at h
    · next completed hphase =>
      obtain ⟨s, hsampler, hs⟩ := Option.map_eq_some_iff.mp hphase
      exact ⟨s, completed, hsampler, hs⟩
    · cases h
  · rintro ⟨s, completed, hsampler, hphase⟩
    rw [hsampler, Option.map_some, hphase]

theorem Measured.step {measurement measurement' : Measurement} {event : MeasurementEvent}
    {reports more : List Report} (h : Measured repr taskIds store clock measurement reports)
    (hstep : measurement.step repr taskIds event = some measurement')
    (hsends : Measurement.sends [event] = more.map Report.data) :
    Measured repr taskIds store clock measurement' (reports ++ more) := by
  obtain ⟨events, hrun, hbefore⟩ := h
  refine ⟨events ++ [event], run_snoc.mpr ⟨measurement, hrun, hstep⟩, ?_⟩
  rw [Measurement.sends_append, hbefore, hsends, List.map_append]

theorem Measured.relayed {measurement : Measurement} {reports : List Report}
    (h : Measured repr taskIds store clock measurement reports) : measurement.Relayed := by
  obtain ⟨events, hrun, -⟩ := h
  exact Measurement.relayed_of_run hrun

/-- The id that the reports name last. -/
theorem Reported.lastStarted {announced : Bool} {events : List SamplerEvent} {reports : List Report}
    (h : Reported runId announced events reports) :
    Measurement.lastStarted reports = if announced then some runId else none := by
  have hmem (experimentId : String) :
      experimentId ∈ reports.filterMap Report.experimentId? ↔ .started experimentId ∈ reports := by
    rw [List.mem_filterMap]
    constructor
    · rintro ⟨report, hmem, hid⟩
      cases report with
      | started experimentId' =>
        obtain rfl := Option.some.inj hid
        exact hmem
      | _ => cases hid
    · exact fun hmem ↦ ⟨_, hmem, rfl⟩
  rw [Measurement.lastStarted]
  split
  · next hannounced =>
    have hne : reports.filterMap Report.experimentId? ≠ [] :=
      List.ne_nil_of_mem ((hmem runId).mpr (h.announced.mp hannounced))
    rw [List.getLast?_eq_some_getLast hne]
    exact congrArg some (h.started _ ((hmem _).mp (List.getLast_mem hne)))
  · next hannounced =>
    rw [List.getLast?_eq_none_iff, List.eq_nil_iff_forall_not_mem]
    intro experimentId hstarted
    have hreported := (hmem experimentId).mp hstarted
    obtain rfl := h.started experimentId hreported
    exact hannounced (h.announced.mpr hreported)

theorem markCrashed_held {store store' : RunStore} {events : List SamplerEvent}
    {record crashed : ExperimentResult} {now : Timestamp} {reason : String}
    (hload : store.loadExperiment runId = .ok record) (hrecords : Records runId taskIds events record)
    (h : store.markCrashed runId now reason = .ok (store', crashed)) :
    Records runId taskIds events crashed ∧ crashed.finishedAt.isSome ∧ crashed.crashReason.isSome := by
  rw [RunStore.markCrashed, hload, StateExcept.ok_bind] at h
  split at h
  · next hcrashed =>
    obtain ⟨-, rfl⟩ := Prod.mk.inj (Except.ok.inj h)
    exact ⟨hrecords, (Measurement.loadExperiment_ok hload).2 hcrashed, hcrashed⟩
  · obtain ⟨-, rfl⟩ := Prod.mk.inj (Except.ok.inj h)
    exact ⟨⟨hrecords.experimentId, hrecords.mem, hrecords.rollout⟩, rfl, rfl⟩

/-- Before the parent ends, the record of the experiment can be read. -/
theorem Isolated.load {s : Sampler} (h : Isolated repr runId taskIds store clock events t)
    (hsampler : t.sampler = some s) (hopen : ∀ outcome, t.measurement.phase ≠ .ended outcome) :
    ∃ record, t.measurement.store.loadExperiment runId = .ok record ∧
      Records runId taskIds (samplerEvents events) record ∧ Stamped taskIds record s.phase := by
  obtain ⟨hheld, hfinished⟩ := h.held s hsampler
  obtain ⟨record, hfile, hrecords, hstamped⟩ := hheld.record
  refine ⟨record, ?_, hrecords, hstamped⟩
  rw [h.store s hsampler hopen]
  exact load_held hfinished hfile hrecords hstamped

/-- The end of the parent. -/
theorem Isolated.ends {error : Option SuperviseError} {stage : Reaping} {since : ℚ} {exitcode : ℤ}
    {now : Timestamp} {measurement : Measurement}
    {outcome : Except MeasurementFailure ExperimentResult}
    (h : Isolated repr runId taskIds store clock events t)
    (hphase : t.measurement.phase = .reaping error stage since)
    (hexited : t.measurement.exitcode = some exitcode)
    (hconcludes : Measurement.Concludes taskIds t.measurement now error exitcode measurement)
    (hended : measurement.phase = .ended outcome) :
    Final runId taskIds (samplerEvents events) { t with measurement := measurement } outcome := by
  cases error with
  | some error =>
    cases hconcludes
    cases hended
    exact ⟨fun _ h ↦ (by cases h), fun _ _ h ↦ (by cases h), fun _ h ↦ (by cases h),
      fun _ h ↦ (by cases h), fun _ h ↦ by cases h⟩
  | none =>
    obtain ⟨reports, ⟨mevents, hrun, hsends⟩, hreported⟩ := h.measured
    have hid : t.measurement.reportedId = if t.announced then some runId else none := by
      have htold := Measurement.told_of_emptied hrun hsends (by rw [hphase]; rfl)
      rw [(Measurement.relayed_of_run hrun).reportedId, htold, hreported.lastStarted]
    have hopen : ∀ outcome, t.measurement.phase ≠ .ended outcome := by simp [hphase]
    -- what is reported can be read
    have hread {experimentId : String} (hsome : t.measurement.reportedId = some experimentId) :
        t.announced = true ∧ experimentId = runId ∧ ∃ s record, t.sampler = some s ∧
          t.measurement.store.loadExperiment experimentId = .ok record ∧
          Records runId taskIds (samplerEvents events) record ∧ Stamped taskIds record s.phase := by
      rw [hid, Option.ite_none_right_eq_some] at hsome
      obtain ⟨hannounced, hrunId⟩ := hsome
      obtain rfl := Option.some.inj hrunId
      cases hsampler : t.sampler with
      | none =>
        rw [(h.idle hsampler).2] at hannounced
        cases hannounced
      | some s =>
        obtain ⟨record, hload, hrecords, hstamped⟩ := h.load hsampler hopen
        exact ⟨hannounced, rfl, s, record, rfl, hload, hrecords, hstamped⟩
    cases hconcludes with
    | unmarked message unfinalized hmarked =>
      cases hended
      refine ⟨fun _ h ↦ (by cases h), fun _ _ h ↦ (by cases h), fun _ _ ↦ ?_, fun _ h ↦ (by cases h),
        fun _ h ↦ by cases h⟩
      by_contra hannounced
      have hsome : t.measurement.reportedId = some runId := by
        rw [hid, if_pos (Bool.eq_true_of_not_eq_false hannounced)]
      obtain ⟨-, -, s, record, -, hload, -, -⟩ := hread hsome
      obtain ⟨text, herror⟩ := hmarked runId hsome
      rw [RunStore.markCrashed, hload, StateExcept.ok_bind] at herror
      split at herror
      · cases herror
      · cases herror
    | marked message hsome hmarked =>
      cases hended
      obtain ⟨-, rfl, s, record, hsampler, hload, hrecords, -⟩ := hread hsome
      refine ⟨fun _ h ↦ (by cases h), fun message' result houtcome ↦ ?_, fun _ h ↦ (by cases h),
        fun _ h ↦ (by cases h), fun _ h ↦ by cases h⟩
      cases houtcome
      exact ⟨Option.isSome_of_eq_some hsampler, markCrashed_held hload hrecords hmarked⟩
    | unreadable hsome herror =>
      obtain ⟨-, rfl, s, record, -, hload, -, -⟩ := hread hsome
      cases hload.symm.trans herror
    | crashed message hsome hloaded hfinished hcrashed =>
      cases hended
      obtain ⟨-, rfl, s, record, hsampler, hload, hrecords, -⟩ := hread hsome
      obtain rfl := Except.ok.inj (hload.symm.trans hloaded)
      refine ⟨fun _ h ↦ (by cases h), fun message' result houtcome ↦ ?_, fun _ h ↦ (by cases h),
        fun _ h ↦ (by cases h), fun _ h ↦ by cases h⟩
      cases houtcome
      exact ⟨Option.isSome_of_eq_some hsampler, hrecords, hfinished, hcrashed⟩
    | wrongPanel message hsome hloaded hpanel =>
      obtain ⟨-, rfl, s, record, -, hload, hrecords, -⟩ := hread hsome
      obtain rfl := Except.ok.inj (hload.symm.trans hloaded)
      refine absurd ?_ hpanel
      ext task
      rw [ExperimentResult.mem_panel, hrecords.mem, List.mem_toFinset]
    | returned hunkilled hsome hloaded hfinished huncrashed hpanel =>
      cases hended
      obtain ⟨-, rfl, s, record, hsampler, hload, hrecords, hstamped⟩ := hread hsome
      obtain rfl := Except.ok.inj (hload.symm.trans hloaded)
      refine ⟨fun result houtcome ↦ ?_, fun _ _ h ↦ (by cases h), fun _ h ↦ (by cases h),
        fun _ h ↦ (by cases h), fun _ h ↦ by cases h⟩
      cases houtcome
      obtain ⟨s', completed, hsampler', hcompleted⟩ := completed_iff.mp (h.exited hexited)
      obtain rfl := Option.some.inj (hsampler.symm.trans hsampler')
      rw [hcompleted] at hstamped
      obtain ⟨rfl, -⟩ := hstamped
      exact ⟨s, hsampler, hcompleted⟩

/-- The worker, the parent or the clock takes a step in which the experiment has no part. -/
theorem Isolated.measure {event : MeasurementEvent} {isolated : IsolatedEvent} {more : List Report}
    (h : Isolated repr runId taskIds store clock events t)
    (hstep : t.measure repr taskIds event = some t') (hsave : ∀ store, event ≠ .saves store)
    (hexit : ∀ torn, event = .exits 0 torn → t.completed = true)
    (hsends : Measurement.sends [event] = more.map Report.data)
    (hevents : samplerEvents [isolated] = [])
    (hmore : ∀ report ∈ more, report.experimentId? = none ∧ ∀ task, report.modeOf? task = none) :
    Isolated repr runId taskIds store clock (events ++ [isolated]) t' := by
  obtain ⟨measurement, hmeasurement, rfl⟩ := Option.map_eq_some_iff.mp hstep
  have htransition := Measurement.transition_of_step hmeasurement
  have hsampled : samplerEvents (events ++ [isolated]) = samplerEvents events := by
    rw [samplerEvents_append, hevents, List.append_nil]
  obtain ⟨reports, hmeasured, hreported⟩ := h.measured
  constructor
  case measured =>
    refine ⟨reports ++ more, hmeasured.step hmeasurement hsends, ?_⟩
    have hstarted (experimentId : String) : .started experimentId ∉ more := fun hmem ↦ by
      cases (hmore _ hmem).1
    refine ⟨fun experimentId hmem ↦ hreported.started experimentId ?_, hreported.announced.trans ?_,
      fun task ↦ ?_⟩
    · exact (List.mem_append.mp hmem).resolve_right (hstarted experimentId)
    · rw [List.mem_append, or_iff_left (hstarted runId)]
    · rw [List.filterMap_append, hreported.modes, hsampled, List.filterMap_eq_nil_iff.mpr, List.append_nil]
      exact fun report hmem ↦ (hmore report hmem).2 task
  case idle =>
    rw [hsampled]
    exact h.idle
  case held =>
    rw [hsampled]
    exact h.held
  case store =>
    intro s hsampler hopen
    rw [Measurement.store_transition htransition hsave hopen]
    exact h.store s hsampler fun outcome hended ↦ hopen outcome (htransition.over hended)
  case exited =>
    intro hexitcode
    have hcompleted : t.completed = true := by
      cases event with
      | exits exitcode torn =>
        cases htransition
        obtain rfl := Option.some.inj hexitcode
        exact hexit torn rfl
      | _ =>
        rw [Measurement.exitcode_transition htransition (by simp)] at hexitcode
        exact h.exited hexitcode
    exact hcompleted
  case final =>
    intro outcome hended
    rw [hsampled]
    rcases htransition.ended hended with
      hbefore | ⟨now, error, stage, since, exitcode, hphase, hexited, hends⟩
    · have hfinal := h.final outcome hbefore
      exact ⟨hfinal.returned, hfinal.crashed, hfinal.unannounced, hfinal.panel, hfinal.readable⟩
    · exact h.ends hphase hexited hends hended

/-- The worker saves and reports, as it is told. -/
theorem Isolated.works {isolated : IsolatedEvent} {reports more : List Report} {sampler : Sampler}
    (h : Isolated repr runId taskIds store clock events t) (hexitcode : t.measurement.exitcode = none)
    (hmeasured : Measured repr taskIds store clock t'.measurement (reports ++ more))
    (hreported : Reported runId t'.announced (samplerEvents (events ++ [isolated])) (reports ++ more))
    (hsampler : t'.sampler = some sampler)
    (hheld : Held runId taskIds (samplerEvents (events ++ [isolated])) sampler)
    (hfinished : Finished taskIds (samplerEvents (events ++ [isolated])) sampler)
    (hstore : t'.measurement.store = sampler.store) (hphase : t'.measurement.phase = t.measurement.phase)
    (hexitcode' : t'.measurement.exitcode = none) :
    Isolated repr runId taskIds store clock (events ++ [isolated]) t' where
  measured := ⟨_, hmeasured, hreported⟩
  idle hnone := by cases hsampler.symm.trans hnone
  held s hs := by
    obtain rfl := Option.some.inj (hsampler.symm.trans hs)
    exact ⟨hheld, hfinished⟩
  store s hs _ := by
    obtain rfl := Option.some.inj (hsampler.symm.trans hs)
    exact hstore
  exited hexited := by cases hexitcode'.symm.trans hexited
  final outcome hended := by
    obtain ⟨_, hmeasured, -⟩ := h.measured
    exact absurd (hphase ▸ hended) (hmeasured.relayed.running hexitcode outcome)

theorem Isolated.begins {gitCommitHash : Sha} {measurementIdentity : MeasurementIdentity}
    {startedAt : Timestamp} (h : Isolated repr runId taskIds store clock events t)
    (hstep : t.step repr runId taskIds (.begins gitCommitHash measurementIdentity startedAt) = some t') :
    Isolated repr runId taskIds store clock
      (events ++ [.begins gitCommitHash measurementIdentity startedAt]) t' := by
  obtain ⟨hnone, hsave⟩ := Option.ite_none_right_eq_some.mp hstep
  obtain ⟨saved, hmeasure, rfl⟩ := Option.map_eq_some_iff.mp hsave
  obtain ⟨measurement, hmeasurement, rfl⟩ := Option.map_eq_some_iff.mp hmeasure
  obtain ⟨hidle, hannounced⟩ := h.idle hnone
  obtain ⟨reports, hmeasured, hreported⟩ := h.measured
  have hsampled : samplerEvents (events ++ [.begins gitCommitHash measurementIdentity startedAt]) = [] := by
    rw [samplerEvents_append, hidle]
    rfl
  obtain ⟨hexitcode, hs'⟩ := Option.ite_none_right_eq_some.mp hmeasurement
  have hsaved : Measured repr taskIds store clock measurement (reports ++ []) :=
    hmeasured.step hmeasurement rfl
  refine h.works hexitcode hsaved ?_ rfl ?_ ?_ ?_ ?_ ?_
  · rw [hsampled, List.append_nil, ← hidle]
    exact hreported
  · rw [hsampled]
    exact start_held _ _ _ _ _ _
  · rw [hsampled]
    exact finished_start _ _ _ _
  · exact Option.some.inj hs' ▸ rfl
  · exact Option.some.inj hs' ▸ rfl
  · exact Option.some.inj hs' ▸ hexitcode

theorem Isolated.announces (h : Isolated repr runId taskIds store clock events t)
    (hstep : t.step repr runId taskIds .announces = some t') :
    Isolated repr runId taskIds store clock (events ++ [.announces]) t' := by
  obtain ⟨⟨hsampler, -⟩, hsend⟩ := Option.ite_none_right_eq_some.mp hstep
  obtain ⟨sampler, hsome⟩ := Option.isSome_iff_exists.mp hsampler
  obtain ⟨sent, hmeasure, rfl⟩ := Option.map_eq_some_iff.mp hsend
  obtain ⟨measurement, hmeasurement, rfl⟩ := Option.map_eq_some_iff.mp hmeasure
  obtain ⟨reports, hmeasured, hreported⟩ := h.measured
  have hsampled : samplerEvents (events ++ [.announces]) = samplerEvents events := by
    rw [samplerEvents_append]
    exact List.append_nil _
  obtain ⟨hheld, hfinished⟩ := h.held sampler hsome
  obtain ⟨⟨hexitcode, -⟩, hs'⟩ := Option.ite_none_right_eq_some.mp hmeasurement
  have hsent : Measured repr taskIds store clock measurement (reports ++ [.started runId]) :=
    hmeasured.step hmeasurement rfl
  refine h.works hexitcode hsent ?_ hsome (hsampled ▸ hheld) (hsampled ▸ hfinished) ?_ ?_ ?_
  · rw [hsampled]
    refine ⟨fun experimentId hmem ↦ ?_, iff_of_true rfl (by simp), fun task ↦ ?_⟩
    · rcases List.mem_append.mp hmem with hbefore | hnow
      · exact hreported.started experimentId hbefore
      · exact Report.started.inj (List.mem_singleton.mp hnow)
    · rw [List.filterMap_append, hreported.modes]
      exact List.append_nil _
  · have hstore := h.store sampler hsome fun outcome ↦ hmeasured.relayed.running hexitcode outcome
    exact Option.some.inj hs' ▸ hstore
  · exact Option.some.inj hs' ▸ rfl
  · exact Option.some.inj hs' ▸ hexitcode

theorem Isolated.samples {event : SamplerEvent} (h : Isolated repr runId taskIds store clock events t)
    (hstep : t.step repr runId taskIds (.samples event) = some t') :
    Isolated repr runId taskIds store clock (events ++ [.samples event]) t' := by
  obtain ⟨hannounced, hstep⟩ := Option.ite_none_right_eq_some.mp hstep
  obtain ⟨sampler, hsampler, hstep⟩ := Option.bind_eq_some_iff.mp hstep
  obtain ⟨next, hnext, hstep⟩ := Option.bind_eq_some_iff.mp hstep
  obtain ⟨saved, hsave, hstep⟩ := Option.bind_eq_some_iff.mp hstep
  obtain ⟨before, hmeasure, rfl⟩ := Option.map_eq_some_iff.mp hsave
  obtain ⟨measurement, hmeasurement, rfl⟩ := Option.map_eq_some_iff.mp hmeasure
  obtain ⟨reports, hmeasured, hreported⟩ := h.measured
  obtain ⟨hheld, hfinished⟩ := h.held sampler hsampler
  have hsampled : samplerEvents (events ++ [.samples event]) = samplerEvents events ++ [event] := by
    rw [samplerEvents_append]
    rfl
  have hsaved : Measured repr taskIds store clock measurement (reports ++ []) :=
    hmeasured.step hmeasurement rfl
  obtain ⟨hexitcode, hs⟩ := Option.ite_none_right_eq_some.mp hmeasurement
  obtain rfl := Option.some.inj hs
  have hreports : Reported runId true (samplerEvents (events ++ [.samples event]))
      (reports ++ event.report?.toList) := by
    have hstarted (experimentId : String) : .started experimentId ∉ event.report?.toList := by
      intro hmem
      cases event with
      | finished task result observed => cases observed <;> simp [SamplerEvent.report?] at hmem
      | _ => cases hmem
    refine ⟨fun experimentId hmem ↦ hreported.started experimentId ?_, iff_of_true rfl ?_, fun task ↦ ?_⟩
    · exact (List.mem_append.mp hmem).resolve_right (hstarted experimentId)
    · exact List.mem_append_left _ (hreported.announced.mp hannounced)
    · rw [hsampled, modes, List.filterMap_append, List.filterMap_append, hreported.modes, modes]
      cases hreport : event.report? with
      | none => simp [hreport]
      | some report => cases hmode : report.modeOf? task <;> simp [hreport, hmode]
  rw [report?_step hheld hnext] at hstep
  have hdone : t'.sampler = some next ∧ t'.announced = true ∧ t'.measurement.store = next.store ∧
      t'.measurement.phase = t.measurement.phase ∧ t'.measurement.exitcode = none ∧
      Measured repr taskIds store clock t'.measurement (reports ++ event.report?.toList) := by
    cases hreport : event.report? with
    | none =>
      rw [hreport] at hstep
      obtain rfl := Option.some.inj hstep
      exact ⟨rfl, hannounced, rfl, rfl, hexitcode, hsaved⟩
    | some report =>
      rw [hreport] at hstep
      obtain ⟨sent, hsend, rfl⟩ := Option.map_eq_some_iff.mp hstep
      rw [List.append_nil] at hsaved
      have hsent : Measured repr taskIds store clock sent (reports ++ [report]) := hsaved.step hsend rfl
      obtain ⟨-, hs⟩ := Option.ite_none_right_eq_some.mp hsend
      obtain rfl := Option.some.inj hs
      exact ⟨rfl, hannounced, rfl, rfl, hexitcode, hsent⟩
  obtain ⟨hsampler', hannounced', hstore, hphase, hexitcode', hmeasured'⟩ := hdone
  refine h.works hexitcode hmeasured' ?_ hsampler' ?_ ?_ hstore hphase hexitcode'
  · rw [hannounced']
    exact hreports
  · rw [hsampled]
    exact hheld.step hnext
  · rw [hsampled]
    exact hfinished.step hheld hnext

theorem isolated_start (store : RunStore) (clock : ℚ) :
    Isolated repr runId taskIds store clock [] (start store clock) where
  measured := ⟨[], ⟨[], rfl, rfl⟩, fun _ h ↦ (by cases h), by simp [start], fun _ ↦ rfl⟩
  idle _ := ⟨rfl, rfl⟩
  held _ h := by cases h
  store _ h := by cases h
  exited h := by cases h
  final _ h := by cases h

/-- **One step.** -/
theorem Isolated.step {event : IsolatedEvent} (h : Isolated repr runId taskIds store clock events t)
    (hstep : t.step repr runId taskIds event = some t') :
    Isolated repr runId taskIds store clock (events ++ [event]) t' := by
  cases event with
  | heartbeat =>
    have hsends : Measurement.sends [.sends (Report.data .heartbeat)] =
        [Report.heartbeat].map Report.data := rfl
    refine h.measure hstep (by simp) (by simp) hsends rfl fun report hmem ↦ ?_
    obtain rfl := List.mem_singleton.mp hmem
    exact ⟨rfl, fun _ ↦ rfl⟩
  | logs line =>
    have hsends : Measurement.sends [.sends (Report.data (.log line))] =
        [Report.log line].map Report.data := rfl
    refine h.measure hstep (by simp) (by simp) hsends rfl fun report hmem ↦ ?_
    obtain rfl := List.mem_singleton.mp hmem
    exact ⟨rfl, fun _ ↦ rfl⟩
  | begins => exact h.begins hstep
  | announces => exact h.announces hstep
  | samples event => exact h.samples hstep
  | closes =>
    exact h.measure hstep (by simp) (by simp) (List.map_nil (f := Report.data)).symm rfl (by simp)
  | exits exitcode torn =>
    obtain ⟨hcode, hexit⟩ := Option.ite_none_left_eq_some.mp hstep
    refine h.measure hexit (by simp) (fun torn' heq ↦ ?_) (List.map_nil (f := Report.data)).symm rfl
      (by simp)
    cases heq
    by_contra hcompleted
    exact hcode ⟨rfl, Bool.eq_false_iff.mpr hcompleted⟩
  | outside event =>
    obtain ⟨hworker, hevent⟩ := Option.ite_none_left_eq_some.mp hstep
    have hsends : Measurement.sends [event] = ([] : List Report).map Report.data := by
      cases event <;> first | rfl | exact absurd rfl hworker
    refine h.measure hevent ?_ ?_ hsends rfl (by simp)
    · rintro saved rfl
      exact hworker rfl
    · rintro torn rfl
      exact absurd rfl hworker

end Final

end IsolatedRun

open IsolatedRun Sampler

namespace IsolatedRun

/-- One task is solved. -/
def solving : List IsolatedEvent := [
  .begins "sha" ⟨"config", "provider", "replay"⟩ 0, .announces, .outside (.advances 0),
  .outside (.advances 0), .heartbeat, .outside (.advances 0), .samples (.loaded (.ok ()) 0),
  .samples (.finished "a" (Sampler.solved "a") (.ok ())), .samples (.resumed none),
  .samples (.drained 1), .exits 0 false, .outside (.advances 0), .outside (.advances 0),
  .outside (.advances 0), .outside (.advances 0), .outside (.advances 0), .outside (.advances 0),
  .outside (.advances 0)]

end IsolatedRun

end HarnessTraining
