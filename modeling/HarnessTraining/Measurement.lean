import HarnessTraining.Library.PyJson.RoundTrip
import HarnessTraining.Library.StateExcept
import HarnessTraining.Library.Transitions
import HarnessTraining.Rollout.Store
import Mathlib.Data.List.Sort
import Mathlib.Data.Rat.Defs
import Mathlib.Tactic.Linarith

/-!
# An isolated measurement

`run_isolated_experiment` of `src/measurement.py` and `_PipeObserver` of `src/worker.py`.  The worker is
a process that may be wedged, may be killed, and may send and save what it likes; the parent forwards
its messages until the pipe is at its end, reaps it, and only then reads what it saved.

Messages are sequences of code points, for bytes.  A lone surrogate in a payload is left out.

* `Report.decode_data` — a report is read back as it was sent.
* `Measurement.step` — what the two processes do, and the clock.
* `Measurement.Relayed` — the invariant of a run.
* `told_of_run` — the observer is told what was sent, in order, and all of it unless the parent raises.
* `measurement_returns_iff` — what a measurement has to be for its result to be returned.
* `watchdog` — a worker is killed for silence only after 1800 seconds of it.
* `supervision_ends` — a measurement ends after its worker.
-/

set_option autoImplicit false

namespace HarnessTraining

open Python Transitions

/-! ## The messages -/

/-- What the observer of the worker is told. -/
inductive Report where
  | heartbeat
  | started (experimentId : String)
  | task (taskId failureMode : String)
  | log (line : String)
  deriving DecidableEq

/-- Why a message is no report. -/
inductive ReportError where
  /-- `json.loads` raises. -/
  | malformed
  /-- `invalid measurement event`. -/
  | invalid
  /-- A payload has a lone surrogate. -/
  | surrogate
  deriving DecidableEq

namespace Report

def toJson : Report → PyJson
  | heartbeat => .obj [(ofString "event", .str (ofString "heartbeat"))]
  | started experimentId => .arr [.str (ofString "started"), .str (ofString experimentId)]
  | task taskId failureMode =>
    .arr [.str (ofString "task"), .str (ofString taskId), .str (ofString failureMode)]
  | log line => .arr [.str (ofString "log"), .str (ofString line)]

/-- The bytes that `_PipeObserver` sends. -/
def data (report : Report) : Text := PyJson.dumps .spaced report.toJson

end Report

namespace ReportError

def char? : CodePoint → Option Char
  | .scalar c => some c
  | .surrogate _ => none

/-- The text of a payload. -/
def payload (text : Text) : Except ReportError String :=
  if encodable text then .ok (String.ofList (text.filterMap char?)) else .error .surrogate

theorem payload_ofString (s : String) : payload (ofString s) = .ok s := by
  rw [payload, if_pos (encodable_ofString s), ofString, List.filterMap_map]
  have hchars : s.toList.filterMap (char? ∘ CodePoint.scalar) = s.toList := List.filterMap_some
  rw [hchars, String.ofList_toList]

end ReportError

namespace Report

/-- The patterns of `forward_event`. -/
def ofJson : PyJson → Except ReportError Report
  | .obj members =>
    match PyJson.get? (ofString "event") members with
    | some (.str event) => if event = ofString "heartbeat" then .ok heartbeat else .error .invalid
    | _ => .error .invalid
  | .arr [.str kind, .str first] =>
    if kind = ofString "started" then started <$> ReportError.payload first
    else if kind = ofString "log" then log <$> ReportError.payload first
    else .error .invalid
  | .arr [.str kind, .str first, .str second] =>
    if kind = ofString "task" then task <$> ReportError.payload first <*> ReportError.payload second
    else .error .invalid
  | _ => .error .invalid

def decode (data : Text) : Except ReportError Report :=
  match PyJson.loads data with
  | .ok event => ofJson event
  | .error _ => .error .malformed

theorem ofJson_toJson (report : Report) : ofJson report.toJson = .ok report := by
  cases report with
  | heartbeat => rfl
  | started experimentId =>
    rw [toJson, ofJson, if_pos rfl, ReportError.payload_ofString]
    rfl
  | task taskId failureMode =>
    rw [toJson, ofJson, if_pos rfl, ReportError.payload_ofString, ReportError.payload_ofString]
    rfl
  | log line =>
    have hkind : ofString "log" ≠ ofString "started" := ofString_injective.ne (by decide)
    rw [toJson, ofJson, if_neg hkind, if_pos rfl, ReportError.payload_ofString]
    rfl

theorem tidy_toJson (report : Report) : PyJson.Tidy report.toJson := by
  cases report <;> simp [toJson, PyJson.Tidy, PyJson.Within, PyJson.WithinItems, PyJson.WithinMembers,
    PyJson.noPair_ofString]

/-- **A report is read back as it was sent.** -/
theorem decode_data (report : Report) : decode report.data = .ok report := by
  rw [decode, data, PyJson.loads_dumps (tidy_toJson report)]
  exact ofJson_toJson report

end Report

/-! ## The two processes -/

/-- `_WATCHDOG_POLL_SEC` -/
def watchdogPollSec : ℚ := 2

/-- `WATCHDOG_INACTIVITY_SEC` -/
def watchdogInactivitySec : ℚ := 1800

/-- `_CHILD_SHUTDOWN_GRACE_SEC` -/
def childShutdownGraceSec : ℚ := 30

/-- What the supervising code raises itself, or lets through. -/
inductive SuperviseError where
  | keyboardInterrupt
  /-- The `ValueError` of a message that is no report. -/
  | invalidEvent (error : ReportError)
  /-- The `OSError` of a message that was cut short. -/
  | endOfFileDuringMessage
  | observer (text : String)

/-- How `run_isolated_experiment` fails. -/
inductive MeasurementFailure where
  | measurementError (message : String) (result : Option ExperimentResult)
  /-- The `RuntimeError` of a panel that was not requested. -/
  | wrongPanel (message : String)
  /-- `load_experiment` raises. -/
  | unreadable (text : String)
  | raised (error : SuperviseError)

/-- How far `_terminate_experiment_process` is. -/
inductive Reaping where
  | waiting
  | interrupted
  | killed
  deriving DecidableEq

/-- Where the parent is. -/
inductive MeasurementPhase where
  /-- `while process.poll() is None` -/
  | watching
  /-- In `receive.poll`. -/
  | polling (since : ℚ)
  /-- In the observer, called while the parent watches, or drains. -/
  | forwarding (draining : Bool)
  /-- After the `kill` of the watchdog. -/
  | killing
  /-- `while receive.poll()` -/
  | draining
  /-- In the `finally`, with the exception under way. -/
  | reaping (error : Option SuperviseError) (stage : Reaping) (since : ℚ)
  | ended (outcome : Except MeasurementFailure ExperimentResult)

/-- The parent has its end of the pipe. -/
def MeasurementPhase.receiving : MeasurementPhase → Bool
  | reaping .. | ended _ => false
  | _ => true

/-- A message, and when it was sent. -/
structure SentMessage where
  data : Text
  sentAt : ℚ

inductive MeasurementEvent where
  | sends (data : Text)
  /-- The worker saves what it likes. -/
  | saves (store : RunStore)
  | closes
  /-- The worker ends, maybe in the middle of a message. -/
  | exits (exitcode : ℤ) (torn : Bool)
  | passes (seconds : ℚ)
  /-- The parent goes on; `now` is the time of day. -/
  | advances (now : Timestamp)
  /-- A `KeyboardInterrupt` in the parent. -/
  | interrupted
  | observerRaises (text : String)

structure Measurement where
  store : RunStore
  /-- `time.monotonic` -/
  clock : ℚ
  exitcode : Option ℤ := none
  /-- The worker has its end of the pipe. -/
  writable : Bool := true
  sent : List SentMessage := []
  /-- The last bytes in the pipe are a part of a message. -/
  torn : Bool := false
  /-- The number of messages that the parent has received. -/
  received : ℕ := 0
  phase : MeasurementPhase := .watching
  reportedId : Option String := none
  recent : List String := []
  lastActivity : ℚ
  killedByWatchdog : Bool := false
  /-- The calls of the observer, in order. -/
  told : List Report := []
  /-- What the observer is told if a crash cannot be written down. -/
  unfinalized : Option String := none

namespace Report

/-- What becomes the reported id. -/
def experimentId? : Report → Option String
  | started experimentId => some experimentId
  | _ => none

/-- What is kept for a failure message. -/
def line? : Report → Option String
  | heartbeat => none
  | started line | log line => some line
  | task taskId failureMode => some s!"{taskId}: {failureMode}"

end Report

namespace Measurement

variable (repr : String → String) (taskIds : List TaskId)

def start (store : RunStore) (clock : ℚ) : Measurement where
  store := store
  clock := clock
  lastActivity := clock

/-- The last `n` items, as a `deque` of that length keeps them. -/
def lastOf {α : Type} (n : ℕ) (items : List α) : List α := items.drop (items.length - n)

/-- `receive.poll` is true. -/
def readable (s : Measurement) : Bool := s.received < s.sent.length || !s.writable

/-- The `finally`. -/
def finalize (s : Measurement) (error : Option SuperviseError) : Measurement :=
  { s with phase := .reaping error .waiting s.clock }

/-- A report is received, and the observer called. -/
def forward (s : Measurement) (report : Report) (draining : Bool) : Measurement :=
  { s with
    received := s.received + 1
    reportedId := report.experimentId?.or s.reportedId
    recent := lastOf 40 (s.recent ++ report.line?.toList)
    told := s.told ++ [report]
    phase := .forwarding draining }

/-- `forward_event`, up to the return of the observer. -/
def forwardEvent (s : Measurement) (draining : Bool) : Measurement :=
  match s.sent[s.received]? with
  | some message =>
    match Report.decode message.data with
    | .ok report => s.forward report draining
    | .error error => s.finalize (some (.invalidEvent error))
  | none =>
    if s.torn then s.finalize (some .endOfFileDuringMessage)
    else if draining then s.finalize none
    else { s with phase := .draining }

/-- A `MeasurementError`, with the record that `_load_crashed_result` returns. -/
def fail (s : Measurement) (now : Timestamp) (experimentId : Option String) (message : String) :
    Measurement :=
  match experimentId with
  | none => { s with phase := .ended (.error (.measurementError message none)) }
  | some experimentId =>
    match s.store.markCrashed experimentId now message with
    | .ok (store, crashed) =>
      { s with store := store, phase := .ended (.error (.measurementError message (some crashed))) }
    | .error text => { s with
        unfinalized := some s!"measurement: could not finalize {experimentId} crashed: {text}"
        phase := .ended (.error (.measurementError message none)) }

/-- `str` of a list of texts. -/
def reprList (items : List String) : String := "[" ++ ", ".intercalate (items.map repr) ++ "]"

/-- The record is read, and has to be complete and of the panel that was requested. -/
def check (s : Measurement) (now : Timestamp) (experimentId : String) : Measurement :=
  match s.store.loadExperiment experimentId with
  | .error text => { s with phase := .ended (.error (.unreadable text)) }
  | .ok result =>
    if result.finishedAt.isNone then
      s.fail now (some experimentId) s!"experiment {experimentId} did not complete: still running"
    else
      match result.crashReason with
      | some reason =>
        let message := s!"experiment {experimentId} did not complete: crashed: {reason}"
        { s with phase := .ended (.error (.measurementError message (some result))) }
      | none =>
        if result.panel ≠ taskIds.toFinset then
          let message := s!"experiment {experimentId} ran tasks " ++
            reprList repr (result.tasks.keys.insertionSort (· ≤ ·)) ++ " but " ++
            reprList repr (taskIds.insertionSort (· ≤ ·)) ++ " were requested"
          { s with phase := .ended (.error (.wrongPanel message)) }
        else { s with phase := .ended (.ok result) }

/-- What the parent does once the worker is reaped. -/
def conclude (s : Measurement) (now : Timestamp) (error : Option SuperviseError) (exitcode : ℤ) :
    Measurement :=
  match error with
  | some error => { s with phase := .ended (.error (.raised error)) }
  | none =>
    let recent := "\n".intercalate s.recent
    if s.killedByWatchdog then
      s.fail now s.reportedId ("measurement process killed by watchdog after 1800s with no output " ++
        "(wedged):\n" ++ recent)
    else if exitcode ≠ 0 then
      s.fail now s.reportedId (s!"measurement process failed (exitcode={exitcode}):\n" ++ recent)
    else
      match s.reportedId with
      | none =>
        s.fail now none ("measurement process did not report an experiment id:\n" ++ recent)
      | some experimentId => s.check repr taskIds now experimentId

/-- The next step of the parent, unless it waits. -/
def advance (s : Measurement) (now : Timestamp) : Option Measurement :=
  match s.phase with
  | .watching =>
    some { s with phase := if s.exitcode.isSome then .draining else .polling s.clock }
  | .polling since =>
    if s.readable then some (s.forwardEvent false)
    else if s.clock < since + watchdogPollSec then none
    else if watchdogInactivitySec < s.clock - s.lastActivity then
      some { s with killedByWatchdog := true, phase := .killing }
    else some { s with phase := .watching }
  | .forwarding draining =>
    if draining then some { s with phase := .draining }
    else some { s with lastActivity := s.clock, phase := .watching }
  | .killing => if s.exitcode.isSome then some { s with phase := .draining } else none
  | .draining => some (if s.readable then s.forwardEvent true else s.finalize none)
  | .reaping error stage since =>
    match s.exitcode with
    | some exitcode => some (s.conclude repr taskIds now error exitcode)
    | none =>
      if s.clock < since + childShutdownGraceSec then none
      else
        match stage with
        | .waiting => some { s with phase := .reaping error .interrupted s.clock }
        | .interrupted => some { s with phase := .reaping error .killed s.clock }
        | .killed => none
  | .ended _ => none

/-- A `KeyboardInterrupt`: the worker is interrupted too, then killed. -/
def interrupt (s : Measurement) : Option Measurement :=
  match s.phase with
  | .reaping error stage _ =>
    match s.exitcode, stage with
    | none, .waiting => some { s with phase := .reaping error .interrupted s.clock }
    | none, .interrupted => some { s with phase := .reaping error .killed s.clock }
    | _, _ => none
  | .ended _ => none
  | _ => some (s.finalize (some .keyboardInterrupt))

/-- What an event does, or nothing if it cannot happen. -/
def step (s : Measurement) : MeasurementEvent → Option Measurement
  | .sends data =>
    if s.exitcode = none ∧ s.writable ∧ s.phase.receiving ∧ Report.decode data ≠ .error .surrogate then
      some { s with sent := s.sent ++ [⟨data, s.clock⟩] }
    else none
  | .saves store => if s.exitcode = none then some { s with store := store } else none
  | .closes => if s.exitcode = none then some { s with writable := false } else none
  | .exits exitcode torn =>
    if s.exitcode = none then
      some { s with exitcode := some exitcode, torn := s.writable && torn, writable := false }
    else none
  | .passes seconds => if 0 < seconds then some { s with clock := s.clock + seconds } else none
  | .advances now => s.advance repr taskIds now
  | .interrupted => s.interrupt
  | .observerRaises text =>
    match s.phase with
    | .forwarding _ => some (s.finalize (some (.observer text)))
    | _ => none

/-! ## What a step can do -/

section Steps

variable (repr : String → String) (taskIds : List TaskId)

/-- How a measurement ends. -/
inductive Concludes (s : Measurement) (now : Timestamp) :
    Option SuperviseError → ℤ → Measurement → Prop
  | raised (error : SuperviseError) (exitcode : ℤ) : Concludes s now (some error) exitcode
    { s with phase := .ended (.error (.raised error)) }
  | unmarked {exitcode : ℤ} (message : String) (unfinalized : Option String)
      (hmarked : ∀ experimentId, s.reportedId = some experimentId →
        ∃ text, s.store.markCrashed experimentId now message = .error text)
      (hreason : s.killedByWatchdog = true ∨ exitcode ≠ 0 ∨ s.reportedId = none ∨
        ∃ experimentId loaded, s.reportedId = some experimentId ∧
          s.store.loadExperiment experimentId = .ok loaded ∧ loaded.finishedAt = none) :
    Concludes s now none exitcode { s with
      unfinalized := unfinalized, phase := .ended (.error (.measurementError message none)) }
  | marked {exitcode : ℤ} {experimentId : String} {store : RunStore} {crashed : ExperimentResult}
      (message : String) (hreported : s.reportedId = some experimentId)
      (hmarked : s.store.markCrashed experimentId now message = .ok (store, crashed))
      (hreason : s.killedByWatchdog = true ∨ exitcode ≠ 0 ∨ s.reportedId = none ∨
        ∃ experimentId loaded, s.reportedId = some experimentId ∧
          s.store.loadExperiment experimentId = .ok loaded ∧ loaded.finishedAt = none) :
    Concludes s now none exitcode { s with
      store := store, phase := .ended (.error (.measurementError message (some crashed))) }
  | unreadable {experimentId text : String} (hreported : s.reportedId = some experimentId)
      (hload : s.store.loadExperiment experimentId = .error text) :
    Concludes s now none 0 { s with phase := .ended (.error (.unreadable text)) }
  | crashed {experimentId : String} {loaded : ExperimentResult} (message : String)
      (hreported : s.reportedId = some experimentId)
      (hload : s.store.loadExperiment experimentId = .ok loaded) (hfinished : loaded.finishedAt.isSome)
      (hcrashed : loaded.crashReason.isSome) :
    Concludes s now none 0 { s with
      phase := .ended (.error (.measurementError message (some loaded))) }
  | wrongPanel {experimentId : String} {loaded : ExperimentResult} (message : String)
      (hreported : s.reportedId = some experimentId)
      (hload : s.store.loadExperiment experimentId = .ok loaded)
      (hpanel : loaded.panel ≠ taskIds.toFinset) :
    Concludes s now none 0 { s with phase := .ended (.error (.wrongPanel message)) }
  | returned {experimentId : String} {loaded : ExperimentResult} (hunkilled : s.killedByWatchdog = false)
      (hreported : s.reportedId = some experimentId)
      (hload : s.store.loadExperiment experimentId = .ok loaded) (hfinished : loaded.finishedAt.isSome)
      (huncrashed : loaded.crashReason = none) (hpanel : loaded.panel = taskIds.toFinset) :
    Concludes s now none 0 { s with phase := .ended (.ok loaded) }

variable {repr taskIds}

theorem concludes_fail {s : Measurement} {now : Timestamp} {exitcode : ℤ} (message : String)
    (hreason : s.killedByWatchdog = true ∨ exitcode ≠ 0 ∨ s.reportedId = none ∨
      ∃ experimentId loaded, s.reportedId = some experimentId ∧
        s.store.loadExperiment experimentId = .ok loaded ∧ loaded.finishedAt = none) :
    Concludes taskIds s now none exitcode (s.fail now s.reportedId message) := by
  cases hreported : s.reportedId with
  | none => exact .unmarked message s.unfinalized (fun _ hsome ↦ by cases hreported.symm.trans hsome) hreason
  | some experimentId =>
    cases hmarked : s.store.markCrashed experimentId now message with
    | error text =>
      rw [fail, hmarked]
      refine .unmarked message _ (fun experimentId' hsome ↦ ?_) hreason
      obtain rfl := Option.some.inj (hreported.symm.trans hsome)
      exact ⟨text, hmarked⟩
    | ok marked =>
      rw [fail, hmarked]
      exact .marked message hreported hmarked hreason

theorem concludes_conclude (s : Measurement) (now : Timestamp) (error : Option SuperviseError)
    (exitcode : ℤ) :
    Concludes taskIds s now error exitcode (s.conclude repr taskIds now error exitcode) := by
  rw [conclude.eq_def]
  cases error with
  | some error => exact .raised error exitcode
  | none =>
    dsimp only
    split_ifs with hkilled hfailed
    · exact concludes_fail _ (Or.inl hkilled)
    · exact concludes_fail _ (Or.inr (Or.inl hfailed))
    obtain rfl : exitcode = 0 := not_not.mp hfailed
    split
    · next hreported =>
      rw [← hreported]
      exact concludes_fail _ (Or.inr (Or.inr (Or.inl hreported)))
    next experimentId hreported =>
    rw [check.eq_def]
    split
    · next hload => exact .unreadable hreported hload
    next loaded hload =>
    by_cases hfinished : loaded.finishedAt.isNone = true
    · rw [if_pos hfinished, ← hreported]
      refine concludes_fail _ (Or.inr (Or.inr (Or.inr ⟨experimentId, loaded, hreported, hload, ?_⟩)))
      exact Option.isNone_iff_eq_none.mp hfinished
    have hsome : loaded.finishedAt.isSome := by
      rwa [Option.isNone_iff_eq_none, ← Option.not_isSome_iff_eq_none, not_not] at hfinished
    rw [if_neg hfinished]
    split
    · next hcrash => exact .crashed _ hreported hload hsome (Option.isSome_of_eq_some hcrash)
    next hcrash =>
    split_ifs with hpanel
    · exact .wrongPanel _ hreported hload hpanel
    · exact .returned (Bool.eq_false_iff.mpr hkilled) hreported hload hsome hcrash (not_not.mp hpanel)

variable (repr taskIds)

/-- The steps of the two processes. -/
inductive Transition (s : Measurement) : MeasurementEvent → Measurement → Prop
  | sends (data : Text) (hexitcode : s.exitcode = none) (hreceiving : s.phase.receiving = true) :
    Transition s (.sends data) { s with sent := s.sent ++ [⟨data, s.clock⟩] }
  | saves (store : RunStore) (hexitcode : s.exitcode = none) :
    Transition s (.saves store) { s with store := store }
  | closes (hexitcode : s.exitcode = none) : Transition s .closes { s with writable := false }
  | exits (exitcode : ℤ) (torn : Bool) (hexitcode : s.exitcode = none) :
    Transition s (.exits exitcode torn)
      { s with exitcode := some exitcode, torn := s.writable && torn, writable := false }
  | passes (seconds : ℚ) (hpositive : 0 < seconds) :
    Transition s (.passes seconds) { s with clock := s.clock + seconds }
  | polls (now : Timestamp) (hphase : s.phase = .watching) :
    Transition s (.advances now) { s with phase := .polling s.clock }
  | repeats (now : Timestamp) {since : ℚ} (hphase : s.phase = .polling since)
      (hactive : s.clock - s.lastActivity ≤ watchdogInactivitySec) :
    Transition s (.advances now) { s with phase := .watching }
  | forwards (now : Timestamp) {draining : Bool} {message : SentMessage} {report : Report}
      (hphase : if draining then s.phase = .draining else ∃ since, s.phase = .polling since)
      (hmessage : s.sent[s.received]? = some message)
      (hreport : Report.decode message.data = .ok report) :
    Transition s (.advances now) (s.forward report draining)
  | told (now : Timestamp) (hphase : s.phase = .forwarding false) :
    Transition s (.advances now) { s with lastActivity := s.clock, phase := .watching }
  | kills (now : Timestamp) {since : ℚ} (hphase : s.phase = .polling since)
      (hreadable : s.readable = false) (hsilent : watchdogInactivitySec < s.clock - s.lastActivity) :
    Transition s (.advances now) { s with killedByWatchdog := true, phase := .killing }
  | drains (now : Timestamp) (hreceiving : s.phase.receiving = true)
      (hpipe : s.exitcode.isSome ∨ s.phase = .forwarding true ∨
        s.readable = true ∧ s.sent.length ≤ s.received) :
    Transition s (.advances now) { s with phase := .draining }
  | raises (now : Timestamp) (hreceiving : s.phase.receiving = true) (error : SuperviseError) :
    Transition s (.advances now) (s.finalize (some error))
  | empties (now : Timestamp) (hphase : s.phase = .draining)
      (hpipe : s.readable = false ∨ s.sent.length ≤ s.received ∧ s.torn = false) :
    Transition s (.advances now) (s.finalize none)
  | escalates (now : Timestamp) {error : Option SuperviseError} {stage stage' : Reaping} {since : ℚ}
      (hphase : s.phase = .reaping error stage since) :
    Transition s (.advances now) { s with phase := .reaping error stage' s.clock }
  | ends (now : Timestamp) {error : Option SuperviseError} {stage : Reaping} {since : ℚ} {exitcode : ℤ}
      {s' : Measurement} (hphase : s.phase = .reaping error stage since)
      (hexited : s.exitcode = some exitcode) (hconcludes : Concludes taskIds s now error exitcode s') :
    Transition s (.advances now) s'
  | interrupts (hreceiving : s.phase.receiving = true) :
    Transition s .interrupted (s.finalize (some .keyboardInterrupt))
  | hurries {error : Option SuperviseError} {stage stage' : Reaping} {since : ℚ}
      (hphase : s.phase = .reaping error stage since) :
    Transition s .interrupted { s with phase := .reaping error stage' s.clock }
  | observerRaises (text : String) (hreceiving : s.phase.receiving = true) :
    Transition s (.observerRaises text) (s.finalize (some (.observer text)))

variable {repr taskIds} {s s' : Measurement}

theorem transition_forwardEvent (now : Timestamp) {draining : Bool}
    (hphase : if draining then s.phase = .draining else ∃ since, s.phase = .polling since)
    (hreadable : s.readable = true) :
    Transition taskIds s (.advances now) (s.forwardEvent draining) := by
  have hreceiving : s.phase.receiving = true := by
    split at hphase
    · rw [hphase]
      rfl
    · obtain ⟨since, hpolling⟩ := hphase
      rw [hpolling]
      rfl
  unfold forwardEvent
  cases hmessage : s.sent[s.received]? with
  | some message =>
    dsimp only
    cases hreport : Report.decode message.data with
    | ok report => exact .forwards now hphase hmessage hreport
    | error error => exact .raises now hreceiving _
  | none =>
    have hall : s.sent.length ≤ s.received := List.getElem?_eq_none_iff.mp hmessage
    dsimp only
    split_ifs with htorn hdraining
    · exact .raises now hreceiving _
    · rw [if_pos hdraining] at hphase
      exact .empties now hphase (Or.inr ⟨hall, Bool.eq_false_iff.mpr htorn⟩)
    · exact .drains now hreceiving (Or.inr (Or.inr ⟨hreadable, hall⟩))

theorem transition_advance {now : Timestamp} (h : s.advance repr taskIds now = some s') :
    Transition taskIds s (.advances now) s' := by
  rw [advance.eq_def] at h
  cases hphase : s.phase with
  | watching =>
    simp only [hphase] at h
    obtain rfl := Option.some.inj h
    split_ifs with hexited
    · exact .drains now (by rw [hphase]; rfl) (Or.inl hexited)
    · exact .polls now hphase
  | polling since =>
    simp only [hphase] at h
    split_ifs at h with hreadable hpolled hsilent
    · obtain rfl := Option.some.inj h
      exact transition_forwardEvent now ⟨since, hphase⟩ hreadable
    · obtain rfl := Option.some.inj h
      exact .kills now hphase (Bool.eq_false_iff.mpr hreadable) hsilent
    · obtain rfl := Option.some.inj h
      exact .repeats now hphase (not_lt.mp hsilent)
  | forwarding draining =>
    simp only [hphase] at h
    cases draining with
    | true =>
      obtain rfl := Option.some.inj h
      exact .drains now (by rw [hphase]; rfl) (Or.inr (Or.inl hphase))
    | false =>
      obtain rfl := Option.some.inj h
      exact .told now hphase
  | killing =>
    simp only [hphase, Option.ite_none_right_eq_some] at h
    obtain ⟨hexited, hs'⟩ := h
    obtain rfl := Option.some.inj hs'
    exact .drains now (by rw [hphase]; rfl) (Or.inl hexited)
  | draining =>
    simp only [hphase] at h
    obtain rfl := Option.some.inj h
    split_ifs with hreadable
    · exact transition_forwardEvent now hphase hreadable
    · exact .empties now hphase (Or.inl (Bool.eq_false_iff.mpr hreadable))
  | reaping error stage since =>
    simp only [hphase] at h
    by_cases hexitcode : s.exitcode = none
    · simp only [hexitcode, Option.ite_none_left_eq_some] at h
      obtain ⟨-, h⟩ := h
      cases stage with
      | waiting | interrupted =>
        obtain rfl := Option.some.inj h
        rw [← hexitcode]
        exact .escalates now hphase
      | killed => cases h
    · obtain ⟨exitcode, hexited⟩ := Option.ne_none_iff_exists'.mp hexitcode
      simp only [hexited] at h
      obtain rfl := Option.some.inj h
      exact .ends now hphase hexited (concludes_conclude s now error exitcode)
  | ended outcome =>
    simp only [hphase] at h
    cases h

theorem transition_of_step {event : MeasurementEvent} (h : s.step repr taskIds event = some s') :
    Transition taskIds s event s' := by
  cases event with
  | sends data =>
    obtain ⟨⟨hexitcode, -, hreceiving, -⟩, hs'⟩ := Option.ite_none_right_eq_some.mp h
    exact Option.some.inj hs' ▸ .sends data hexitcode hreceiving
  | saves store =>
    obtain ⟨hexitcode, hs'⟩ := Option.ite_none_right_eq_some.mp h
    exact Option.some.inj hs' ▸ .saves store hexitcode
  | closes =>
    obtain ⟨hexitcode, hs'⟩ := Option.ite_none_right_eq_some.mp h
    exact Option.some.inj hs' ▸ .closes hexitcode
  | exits exitcode torn =>
    obtain ⟨hexitcode, hs'⟩ := Option.ite_none_right_eq_some.mp h
    exact Option.some.inj hs' ▸ .exits exitcode torn hexitcode
  | passes seconds =>
    obtain ⟨hpositive, hs'⟩ := Option.ite_none_right_eq_some.mp h
    exact Option.some.inj hs' ▸ .passes seconds hpositive
  | advances now => exact transition_advance h
  | interrupted =>
    rw [step, interrupt.eq_def] at h
    cases hphase : s.phase with
    | reaping error stage since =>
      simp only [hphase] at h
      split at h
      · exact Option.some.inj h ▸ .hurries hphase
      · exact Option.some.inj h ▸ .hurries hphase
      · cases h
    | ended outcome =>
      simp only [hphase] at h
      cases h
    | _ =>
      simp only [hphase] at h
      exact Option.some.inj h ▸ .interrupts (by rw [hphase]; rfl)
  | observerRaises text =>
    simp only [step] at h
    split at h
    · next hphase => exact Option.some.inj h ▸ .observerRaises text (by rw [hphase]; rfl)
    · cases h

/-- A measurement ends in one step, and stays ended. -/
theorem Transition.ended {event : MeasurementEvent} {outcome : Except MeasurementFailure ExperimentResult}
    (h : Transition taskIds s event s') (hended : s'.phase = .ended outcome) :
    s.phase = .ended outcome ∨ ∃ now error stage since exitcode, s.phase = .reaping error stage since ∧
      s.exitcode = some exitcode ∧ Concludes taskIds s now error exitcode s' := by
  cases h with
  | sends | saves | closes | exits | passes => exact Or.inl hended
  | ends now hphase hexited hconcludes => exact Or.inr ⟨now, _, _, _, _, hphase, hexited, hconcludes⟩
  | _ => cases hended

/-- A measurement stays ended. -/
theorem Transition.over {event : MeasurementEvent} {outcome : Except MeasurementFailure ExperimentResult}
    (h : Transition taskIds s event s') (hended : s.phase = .ended outcome) :
    s'.phase = .ended outcome := by
  have hreceiving : s.phase.receiving = false := by rw [hended]; rfl
  cases h with
  | passes | sends | saves | closes | exits => exact hended
  | drains _ hopen | raises _ hopen | interrupts hopen | observerRaises _ hopen =>
    cases hreceiving.symm.trans hopen
  | polls _ hphase | repeats _ hphase | told _ hphase | kills _ hphase => cases hended.symm.trans hphase
  | empties _ hphase | escalates _ hphase | ends _ hphase => cases hended.symm.trans hphase
  | hurries hphase => cases hended.symm.trans hphase
  | @forwards _ draining _ _ hphase =>
    split at hphase
    · cases hended.symm.trans hphase
    · obtain ⟨since, hpolling⟩ := hphase
      cases hended.symm.trans hpolling

end Steps

/-! ## What is forwarded -/

/-- The id that was reported last. -/
def lastStarted (told : List Report) : Option String := (told.filterMap Report.experimentId?).getLast?

/-- What the messages say. -/
def decoded (messages : List SentMessage) : List (Except ReportError Report) :=
  messages.map fun message ↦ Report.decode message.data

theorem lastStarted_snoc (told : List Report) (report : Report) :
    lastStarted (told ++ [report]) = report.experimentId?.or (lastStarted told) := by
  rw [lastStarted, lastStarted, List.filterMap_append]
  cases hid : report.experimentId? with
  | none => rw [List.filterMap_cons_none hid, List.filterMap_nil, List.append_nil, Option.none_or]
  | some experimentId =>
    rw [List.filterMap_cons_some hid, List.filterMap_nil, List.getLast?_concat, Option.some_or]

theorem lastOf_append {α : Type} (n : ℕ) (items more : List α) :
    lastOf n (lastOf n items ++ more) = lastOf n (items ++ more) := by
  rw [lastOf, lastOf, lastOf, List.length_append, List.length_append, List.length_drop, List.drop_append,
    List.drop_append, List.drop_drop, List.length_drop]
  congr 2
  · omega
  · omega

end Measurement

/-- The parent has found the pipe at its end. -/
def MeasurementPhase.emptied : MeasurementPhase → Bool
  | reaping none .. | ended (.ok _) => true
  | ended (.error (.raised _)) => false
  | ended (.error _) => true
  | _ => false

/-- The parent reads what is left. -/
def MeasurementPhase.drains : MeasurementPhase → Bool
  | draining | forwarding true => true
  | _ => false

namespace Measurement

/-- **The invariant of a run.** -/
structure Relayed (s : Measurement) : Prop where
  received_le : s.received ≤ s.sent.length
  told : decoded (s.sent.take s.received) = s.told.map .ok
  reportedId : s.reportedId = lastStarted s.told
  recent : s.recent = lastOf 40 (s.told.filterMap Report.line?)
  exited : s.exitcode.isSome → s.writable = false
  drains : s.phase.drains → s.writable = false
  emptied : s.phase.emptied → s.received = s.sent.length ∧ s.torn = false ∧ s.writable = false
  ended : ∀ outcome, s.phase = .ended outcome → s.exitcode.isSome

variable {repr : String → String} {taskIds : List TaskId} {s s' : Measurement}

theorem relayed_start (store : RunStore) (clock : ℚ) : Relayed (start store clock) where
  received_le := le_rfl
  told := rfl
  reportedId := rfl
  recent := rfl
  exited h := by cases h
  drains h := by cases h
  emptied h := by cases h
  ended outcome h := by cases h

/-- The parent goes to another phase, and forwards nothing. -/
theorem Relayed.goes {phase : MeasurementPhase} (h : Relayed s)
    (hdrains : phase.drains = true → s.writable = false)
    (hemptied : phase.emptied = true → s.received = s.sent.length ∧ s.torn = false ∧ s.writable = false)
    (hended : ∀ outcome, phase = .ended outcome → s.exitcode.isSome) :
    Relayed { s with phase := phase } :=
  { h with drains := hdrains, emptied := hemptied, ended := hended }

theorem Relayed.finalize {error : Option SuperviseError} (h : Relayed s)
    (hemptied : error = none → s.received = s.sent.length ∧ s.torn = false ∧ s.writable = false) :
    Relayed (s.finalize error) := by
  refine h.goes (fun hdrains ↦ by cases hdrains) (fun hphase ↦ ?_) (fun _ hended ↦ by cases hended)
  cases error with
  | none => exact hemptied rfl
  | some error => cases hphase

/-- The pipe is at its end. -/
theorem readable_iff : s.readable = true ↔ s.received < s.sent.length ∨ s.writable = false := by
  rw [readable, Bool.or_eq_true, decide_eq_true_iff, Bool.not_eq_true']

theorem Relayed.forward {message : SentMessage} {report : Report} {draining : Bool} (h : Relayed s)
    (hmessage : s.sent[s.received]? = some message) (hreport : Report.decode message.data = .ok report)
    (hdraining : draining = true → s.writable = false) : Relayed (s.forward report draining) where
  received_le := (List.getElem?_eq_some_iff.mp hmessage).1
  told := by
    have htake : s.sent.take (s.received + 1) = s.sent.take s.received ++ [message] := by
      rw [List.take_add_one, hmessage, Option.toList_some]
    have htold : decoded (s.sent.take (s.received + 1)) = (s.told ++ [report]).map .ok := by
      rw [htake, decoded, List.map_append, List.map_append, ← h.told, decoded, List.map_singleton, hreport]
      rfl
    exact htold
  reportedId := by
    rw [Measurement.forward, h.reportedId]
    exact (lastStarted_snoc s.told report).symm
  recent := by
    have hlines : (s.told ++ [report]).filterMap Report.line? =
        s.told.filterMap Report.line? ++ report.line?.toList := by
      rw [List.filterMap_append]
      cases hline : report.line? with
      | none => rw [List.filterMap_cons_none hline, List.filterMap_nil, Option.toList_none]
      | some line => rw [List.filterMap_cons_some hline, List.filterMap_nil, Option.toList_some]
    rw [Measurement.forward, h.recent, lastOf_append, ← hlines]
  exited := h.exited
  drains hdrains := by
    cases draining with
    | true => exact hdraining rfl
    | false => cases hdrains
  emptied hemptied := by cases hemptied
  ended outcome hended := by cases hended

/-- The parent waits for the worker once more. -/
theorem Relayed.waits {error : Option SuperviseError} {stage stage' : Reaping} {since : ℚ} (h : Relayed s)
    (hphase : s.phase = .reaping error stage since) :
    Relayed { s with phase := .reaping error stage' s.clock } := by
  refine h.goes (fun hdrains ↦ by cases hdrains) (fun hemptied ↦ h.emptied ?_)
    fun _ hended ↦ by cases hended
  rw [hphase]
  cases error with
  | none => rfl
  | some error => cases hemptied

theorem Relayed.concludes {error : Option SuperviseError} {stage : Reaping} {since : ℚ} {exitcode : ℤ}
    {now : Timestamp} (h : Relayed s) (hphase : s.phase = .reaping error stage since)
    (hexited : s.exitcode = some exitcode) (hconcludes : Concludes taskIds s now error exitcode s') :
    Relayed s' := by
  have hsome : s.exitcode.isSome := Option.isSome_of_eq_some hexited
  have hends {outcome : Except MeasurementFailure ExperimentResult}
      (hemptied : (MeasurementPhase.ended outcome).emptied = true →
        s.received = s.sent.length ∧ s.torn = false ∧ s.writable = false) :
      Relayed { s with phase := .ended outcome } :=
    h.goes (fun hdrains ↦ by cases hdrains) hemptied fun _ _ ↦ hsome
  cases error with
  | some error =>
    cases hconcludes
    exact hends fun hemptied ↦ by cases hemptied
  | none =>
    have hemptied := h.emptied (by rw [hphase]; rfl)
    cases hconcludes with
    | unmarked message | marked message => exact { hends fun _ ↦ hemptied with }
    | _ => exact hends fun _ ↦ hemptied

theorem Relayed.step {event : MeasurementEvent} (h : Relayed s) (hstep : Transition taskIds s event s') :
    Relayed s' := by
  cases hstep with
  | sends data hexitcode hreceiving =>
    exact { h with
      received_le := h.received_le.trans (by simp)
      told := by
        dsimp only
        rw [List.take_append_of_le_length h.received_le]
        exact h.told
      emptied := fun hemptied ↦ by
        dsimp only at hemptied
        cases hphase : s.phase <;> rw [hphase] at hreceiving hemptied <;>
          first | cases hemptied | cases hreceiving }
  | saves | passes => exact { h with }
  | closes =>
    exact { h with
      exited := fun _ ↦ rfl
      drains := fun _ ↦ rfl
      emptied := fun hemptied ↦ ⟨(h.emptied hemptied).1, (h.emptied hemptied).2.1, rfl⟩ }
  | exits exitcode torn hexitcode =>
    exact { h with
      exited := fun _ ↦ rfl
      drains := fun _ ↦ rfl
      emptied := fun hemptied ↦ by
        obtain ⟨hreceived, -, hwritable⟩ := h.emptied hemptied
        exact ⟨hreceived, by rw [hwritable]; rfl, rfl⟩
      ended := fun _ _ ↦ rfl }
  | polls | repeats | told | kills =>
    exact { h with
      drains := fun hdrains ↦ by cases hdrains
      emptied := fun hemptied ↦ by cases hemptied
      ended := fun _ hended ↦ by cases hended }
  | @forwards now draining message report hphase hmessage hreport =>
    refine h.forward hmessage hreport fun hdraining ↦ h.drains ?_
    rw [if_pos hdraining] at hphase
    rw [hphase]
    rfl
  | drains now _ hpipe =>
    refine h.goes (fun _ ↦ ?_) (fun hemptied ↦ by cases hemptied) fun _ hended ↦ by cases hended
    rcases hpipe with hexited | hphase | ⟨hreadable, hall⟩
    · exact h.exited hexited
    · exact h.drains (by rw [hphase]; rfl)
    · exact (readable_iff.mp hreadable).resolve_left hall.not_gt
  | raises | interrupts | observerRaises => exact h.finalize fun herror ↦ by cases herror
  | empties now hphase hpipe =>
    have hwritable : s.writable = false := h.drains (by rw [hphase]; rfl)
    refine h.finalize fun _ ↦ ?_
    rcases hpipe with hreadable | ⟨hall, htorn⟩
    · rw [readable_iff.mpr (Or.inr hwritable)] at hreadable
      cases hreadable
    · exact ⟨le_antisymm h.received_le hall, htorn, hwritable⟩
  | escalates now hphase => exact h.waits hphase
  | hurries hphase => exact h.waits hphase
  | ends now hphase hexited hconcludes => exact h.concludes hphase hexited hconcludes

/-- A measurement does not end before its worker. -/
theorem Relayed.running (h : Relayed s) (hexitcode : s.exitcode = none)
    (outcome : Except MeasurementFailure ExperimentResult) : s.phase ≠ .ended outcome := by
  intro hphase
  have hexited := h.ended outcome hphase
  rw [hexitcode] at hexited
  cases hexited

theorem relayed_of_run {store : RunStore} {clock : ℚ} {events : List MeasurementEvent}
    (h : run (step repr taskIds) (start store clock) events = some s) : Relayed s :=
  run_keeps (E := fun _ ↦ True) (relayed_start store clock)
    (fun _ _ _ hrelayed _ hstep ↦ hrelayed.step (transition_of_step hstep)) (fun _ _ ↦ trivial) h

/-! ## What the worker sent -/

/-- The messages of a run. -/
def sends : List MeasurementEvent → List Text
  | [] => []
  | .sends data :: events => data :: sends events
  | _ :: events => sends events

theorem sends_append (events more : List MeasurementEvent) :
    sends (events ++ more) = sends events ++ sends more := by
  induction events with
  | nil => rfl
  | cons event events ih => cases event <;> simp [sends, ih]

/-- What was sent changes with `sends` alone. -/
theorem sent_step {event : MeasurementEvent} (hstep : Transition taskIds s event s') :
    s'.sent.map SentMessage.data = s.sent.map SentMessage.data ++ sends [event] := by
  have hsame : s.sent.map SentMessage.data = s.sent.map SentMessage.data ++ [] :=
    (List.append_nil _).symm
  cases hstep with
  | sends => exact List.map_append
  | ends now _ _ hconcludes => cases hconcludes <;> exact hsame
  | _ => exact hsame

/-- The parent ended by itself. -/
def Calm (outcome : Except MeasurementFailure ExperimentResult) : Prop :=
  ∀ error, outcome ≠ .error (.raised error)

theorem Calm.emptied {outcome : Except MeasurementFailure ExperimentResult} (h : Calm outcome) :
    (MeasurementPhase.ended outcome).emptied = true := by
  cases outcome with
  | ok => rfl
  | error failure =>
    cases failure with
    | raised error => exact absurd rfl (h error)
    | _ => rfl

/-- What the observer has been told, of what the worker sent. -/
theorem told_eq_take {store : RunStore} {clock : ℚ} {events : List MeasurementEvent}
    {reports : List Report} (h : run (step repr taskIds) (start store clock) events = some s)
    (hsends : sends events = reports.map Report.data) :
    s.told = reports.take s.received ∧ s.sent.length = reports.length := by
  have hsent : s.sent.map SentMessage.data = reports.map Report.data := by
    rw [← hsends]
    exact run_invariant (I := fun events s ↦ s.sent.map SentMessage.data = sends events) rfl
      (fun before middle event next ih hevent ↦ by
        rw [sent_step (transition_of_step hevent), ih, sends_append]) h
  have hdecoded : decoded s.sent = reports.map .ok := by
    have hmap : decoded s.sent = (s.sent.map SentMessage.data).map Report.decode := by
      rw [decoded, List.map_map]
      rfl
    rw [hmap, hsent, List.map_map]
    exact List.map_congr_left fun report _ ↦ Report.decode_data report
  constructor
  · have hmap : s.told.map Except.ok = (reports.take s.received).map (Except.ok (ε := ReportError)) := by
      rw [← (relayed_of_run h).told, decoded, List.map_take, List.map_take, ← hdecoded]
      rfl
    exact List.map_injective_iff.mpr (fun _ _ ↦ Except.ok.inj) hmap
  · have hmaps := congrArg List.length hsent
    rwa [List.length_map, List.length_map] at hmaps

/-- At the end of the pipe all has been told. -/
theorem told_of_emptied {store : RunStore} {clock : ℚ} {events : List MeasurementEvent}
    {reports : List Report} (h : run (step repr taskIds) (start store clock) events = some s)
    (hsends : sends events = reports.map Report.data) (hemptied : s.phase.emptied = true) :
    s.told = reports := by
  obtain ⟨htold, hlength⟩ := told_eq_take h hsends
  rw [htold, List.take_of_length_le]
  rw [((relayed_of_run h).emptied hemptied).1, hlength]

/-- **The observer is told what was sent**, in order; all of it, unless the parent raises. -/
theorem told_of_run {store : RunStore} {clock : ℚ} {events : List MeasurementEvent}
    {reports : List Report} (h : run (step repr taskIds) (start store clock) events = some s)
    (hsends : sends events = reports.map Report.data) :
    s.told <+: reports ∧ ∀ outcome, s.phase = .ended outcome → Calm outcome → s.told = reports := by
  refine ⟨(told_eq_take h hsends).1 ▸ List.take_prefix _ _, fun outcome hended hcalm ↦ ?_⟩
  exact told_of_emptied h hsends (hended ▸ hcalm.emptied)

/-- A worker that reports its experiment and fails. -/
def failing : List MeasurementEvent :=
  [.sends (Report.data (.started "exp")), .advances 0, .advances 0, .advances 0, .exits 1 false,
    .advances 0, .advances 0, .advances 0]

/-- The outcome of a measurement that ended. -/
def outcome? (s : Measurement) : Option (Except MeasurementFailure ExperimentResult) :=
  match s.phase with
  | .ended outcome => some outcome
  | _ => none

theorem outcome?_eq_some {outcome : Except MeasurementFailure ExperimentResult} :
    s.outcome? = some outcome ↔ s.phase = .ended outcome := by
  rw [outcome?]
  split
  · next h => rw [h, Option.some_inj, MeasurementPhase.ended.injEq]
  · next h => exact iff_of_false (by rintro ⟨⟩) (h outcome)

/-- A run that ends, in some way. -/
theorem exists_ended (repr : String → String) (taskIds : List TaskId) (store : RunStore) (clock : ℚ)
    (events : List MeasurementEvent) (p : Except MeasurementFailure ExperimentResult → Bool)
    (h : ((run (step repr taskIds) (start store clock) events).bind outcome?).any p = true) :
    ∃ s outcome, run (step repr taskIds) (start store clock) events = some s ∧
      s.phase = .ended outcome ∧ p outcome = true := by
  rw [Option.any_eq_true] at h
  obtain ⟨outcome, houtcome, hp⟩ := h
  obtain ⟨s, hrun, hended⟩ := Option.bind_eq_some_iff.mp houtcome
  exact ⟨s, outcome, hrun, outcome?_eq_some.mp hended, hp⟩

instance decidableCalm : (outcome : Except MeasurementFailure ExperimentResult) → Decidable (Calm outcome)
  | .error (.raised error) => isFalse fun h ↦ h error rfl
  | .error (.measurementError ..) | .error (.wrongPanel _) | .error (.unreadable _) | .ok _ =>
    isTrue fun _ ↦ by rintro ⟨⟩

/-- The observer was told of the experiment that failed. -/
theorem told_of_run_failing : ∃ s : Measurement, run (step id ["a"]) (start {} 0) failing = some s ∧
    s.told = [.started "exp"] := by
  obtain ⟨s, outcome, hrun, hended, hcalm⟩ :=
    exists_ended id ["a"] {} 0 failing (fun outcome ↦ decide (Calm outcome)) (by decide +kernel)
  exact ⟨s, hrun, (told_of_run hrun rfl).2 outcome hended (of_decide_eq_true hcalm)⟩

/-! ## Whose result is returned -/

/-- A record of the panel that was requested, finished by a worker that ended well. -/
structure Trusted (taskIds : List TaskId) (s : Measurement) (result : ExperimentResult) : Prop where
  exitcode : s.exitcode = some 0
  unkilled : s.killedByWatchdog = false
  saved : ∃ experimentId, lastStarted s.told = some experimentId ∧
    s.store.loadExperiment experimentId = .ok result
  finished : result.finishedAt.isSome
  uncrashed : result.crashReason = none
  panel : result.panel = taskIds.toFinset

/-- A crash that is written down is no result. -/
theorem loadExperiment_markCrashed {store store' : RunStore} {crashed result : ExperimentResult}
    {runId runId' reason : String} {now : Timestamp}
    (h : store.markCrashed runId now reason = .ok (store', crashed))
    (hload : store'.loadExperiment runId' = .ok result) (huncrashed : result.crashReason = none) :
    store.loadExperiment runId' = .ok result := by
  rw [RunStore.markCrashed] at h
  obtain ⟨loaded, -, h⟩ := StateExcept.bind_eq_ok h
  split at h
  · obtain ⟨rfl, -⟩ := Prod.mk.inj (Except.ok.inj h)
    exact hload
  · obtain ⟨rfl, -⟩ := Prod.mk.inj (Except.ok.inj h)
    rw [RunStore.loadExperiment, RunStore.saveExperiment] at hload
    dsimp only at hload
    by_cases hid : runId' = loaded.experimentId
    · subst hid
      rw [AList.lookup_insert] at hload
      obtain ⟨_, -, hresult⟩ := StateExcept.bind_eq_ok hload
      obtain rfl := Except.ok.inj hresult
      cases huncrashed
    · rw [AList.lookup_insert_ne hid] at hload
      exact hload

/-- The record that is returned with a failure. -/
structure CrashRecord (s : Measurement) (result : ExperimentResult) : Prop where
  saved : ∃ experimentId, s.store.files.lookup experimentId = some result
  finished : result.finishedAt.isSome
  crashed : result.crashReason.isSome

/-- **What the end of a measurement says.** -/
structure Judged (taskIds : List TaskId) (s : Measurement)
    (outcome : Except MeasurementFailure ExperimentResult) : Prop where
  returned : Calm outcome → ∀ result, outcome = .ok result ↔ Trusted taskIds s result
  crashed : ∀ message result, outcome = .error (.measurementError message (some result)) →
    CrashRecord s result

theorem loadExperiment_ok {store : RunStore} {runId : String} {result : ExperimentResult}
    (h : store.loadExperiment runId = .ok result) :
    store.files.lookup runId = some result ∧ (result.crashReason.isSome → result.finishedAt.isSome) := by
  rw [RunStore.loadExperiment] at h
  split at h
  · cases h
  · next loaded hlookup =>
    obtain ⟨_, hcheck, hresult⟩ := StateExcept.bind_eq_ok h
    obtain rfl := Except.ok.inj hresult
    refine ⟨hlookup, fun hcrashed ↦ ?_⟩
    rw [ExperimentResult.check] at hcheck
    by_contra hunfinished
    rw [if_pos ⟨hcrashed, by simpa using hunfinished⟩] at hcheck
    cases hcheck

theorem crashRecord_markCrashed {store : RunStore} {crashed : ExperimentResult} {runId reason : String}
    {now : Timestamp} (h : s.store.markCrashed runId now reason = .ok (store, crashed)) :
    CrashRecord { s with store := store } crashed := by
  rw [RunStore.markCrashed] at h
  obtain ⟨loaded, hload, h⟩ := StateExcept.bind_eq_ok h
  obtain ⟨hlookup, hfinished⟩ := loadExperiment_ok hload
  split at h
  · next hcrashed =>
    obtain ⟨rfl, rfl⟩ := Prod.mk.inj (Except.ok.inj h)
    exact ⟨⟨runId, hlookup⟩, hfinished hcrashed, hcrashed⟩
  · obtain ⟨rfl, rfl⟩ := Prod.mk.inj (Except.ok.inj h)
    exact ⟨⟨loaded.experimentId, AList.lookup_insert _⟩, rfl, rfl⟩

theorem judged_concludes {error : Option SuperviseError} {exitcode : ℤ} {now : Timestamp}
    {outcome : Except MeasurementFailure ExperimentResult} (h : Relayed s)
    (hexited : s.exitcode = some exitcode) (hconcludes : Concludes taskIds s now error exitcode s')
    (hended : s'.phase = .ended outcome) : Judged taskIds s' outcome := by
  -- what is read under the reported id is all that can be trusted
  have hread {t : Measurement} {experimentId : String} {result : ExperimentResult}
      (htrusted : Trusted taskIds t result) (htold : t.told = s.told)
      (hreported : s.reportedId = some experimentId) : t.store.loadExperiment experimentId = .ok result := by
    obtain ⟨runId, hstarted, hload⟩ := htrusted.saved
    rw [htold, ← h.reportedId, hreported] at hstarted
    obtain rfl := Option.some.inj hstarted
    exact hload
  have hreason {t : Measurement} {result : ExperimentResult} (htrusted : Trusted taskIds t result)
      (hsame : t.told = s.told) (hexitcode : t.exitcode = s.exitcode)
      (hkilled : t.killedByWatchdog = s.killedByWatchdog)
      (hload : ∀ experimentId, t.store.loadExperiment experimentId = .ok result →
        s.store.loadExperiment experimentId = .ok result) :
      ¬(s.killedByWatchdog = true ∨ exitcode ≠ 0 ∨ s.reportedId = none ∨
        ∃ experimentId loaded, s.reportedId = some experimentId ∧
          s.store.loadExperiment experimentId = .ok loaded ∧ loaded.finishedAt = none) := by
    rintro (hkill | hfailed | hunreported | ⟨experimentId, loaded, hreported, hloaded, hunfinished⟩)
    · cases (hkilled.trans hkill).symm.trans htrusted.unkilled
    · exact hfailed (Option.some.inj (hexited.symm.trans (hexitcode.symm.trans htrusted.exitcode)))
    · obtain ⟨runId, hstarted, -⟩ := htrusted.saved
      rw [hsame, ← h.reportedId, hunreported] at hstarted
      cases hstarted
    · obtain rfl := Except.ok.inj (hloaded.symm.trans (hload _ (hread htrusted hsame hreported)))
      have hfinished := htrusted.finished
      rw [hunfinished] at hfinished
      cases hfinished
  cases hconcludes with
  | raised error =>
    cases hended
    exact ⟨fun hcalm ↦ absurd rfl (hcalm error), fun _ _ hfailure ↦ by cases hfailure⟩
  | unmarked message unfinalized hmarked hfailed =>
    cases hended
    exact ⟨fun _ result ↦ iff_of_false (fun hok ↦ by cases hok)
      fun htrusted ↦ hreason htrusted rfl rfl rfl (fun _ ↦ id) hfailed,
      fun _ _ hfailure ↦ by cases hfailure⟩
  | marked message hreported hmarked hfailed =>
    cases hended
    constructor
    · refine fun _ result ↦ iff_of_false (fun hok ↦ by cases hok) fun htrusted ↦ ?_
      exact hreason htrusted rfl rfl rfl
        (fun _ hload ↦ loadExperiment_markCrashed hmarked hload htrusted.uncrashed) hfailed
    · intro message' result hfailure
      cases hfailure
      exact { crashRecord_markCrashed hmarked with }
  | unreadable hreported hload =>
    cases hended
    refine ⟨fun _ result ↦ iff_of_false (fun hok ↦ by cases hok) fun htrusted ↦ ?_,
      fun _ _ hfailure ↦ by cases hfailure⟩
    have hresult := hread htrusted rfl hreported
    cases hload.symm.trans hresult
  | crashed message hreported hload hfinished hcrashed =>
    cases hended
    constructor
    · refine fun _ result ↦ iff_of_false (fun hok ↦ by cases hok) fun htrusted ↦ ?_
      have hresult := hread htrusted rfl hreported
      obtain rfl := Except.ok.inj (hload.symm.trans hresult)
      rw [htrusted.uncrashed] at hcrashed
      cases hcrashed
    · intro message' result hfailure
      cases hfailure
      exact ⟨⟨_, (loadExperiment_ok hload).1⟩, hfinished, hcrashed⟩
  | wrongPanel message hreported hload hpanel =>
    cases hended
    refine ⟨fun _ result ↦ iff_of_false (fun hok ↦ by cases hok) fun htrusted ↦ ?_,
      fun _ _ hfailure ↦ by cases hfailure⟩
    have hresult := hread htrusted rfl hreported
    obtain rfl := Except.ok.inj (hload.symm.trans hresult)
    exact hpanel htrusted.panel
  | returned hunkilled hreported hload hfinished huncrashed hpanel =>
    cases hended
    refine ⟨fun _ result ↦ ⟨fun hok ↦ ?_, fun htrusted ↦ ?_⟩, fun _ _ hfailure ↦ by cases hfailure⟩
    · obtain rfl := Except.ok.inj hok
      exact ⟨hexited, hunkilled, ⟨_, h.reportedId.symm.trans hreported, hload⟩, hfinished, huncrashed,
        hpanel⟩
    · have hresult := hread htrusted rfl hreported
      obtain rfl := Except.ok.inj (hload.symm.trans hresult)
      rfl

/-- A measurement ends once, and after that only time passes. -/
theorem judged_step {event : MeasurementEvent} {outcome : Except MeasurementFailure ExperimentResult}
    (h : Relayed s) (hjudged : ∀ outcome, s.phase = .ended outcome → Judged taskIds s outcome)
    (hstep : Transition taskIds s event s') (hended : s'.phase = .ended outcome) :
    Judged taskIds s' outcome := by
  cases hstep with
  | sends data hexitcode => exact absurd hended (h.running hexitcode outcome)
  | saves store hexitcode => exact absurd hended (h.running hexitcode outcome)
  | closes hexitcode => exact absurd hended (h.running hexitcode outcome)
  | exits exitcode torn hexitcode => exact absurd hended (h.running hexitcode outcome)
  | passes =>
    have hbefore := hjudged outcome hended
    exact ⟨fun hcalm result ↦ (hbefore.returned hcalm result).trans
      ⟨fun htrusted ↦ { htrusted with }, fun htrusted ↦ { htrusted with }⟩,
      fun message result hfailure ↦ { hbefore.crashed message result hfailure with }⟩
  | ends now hphase hexited hconcludes => exact judged_concludes h hexited hconcludes hended
  | _ => cases hended

/-- **A result is returned just if it can be trusted**: the worker ended well and was not killed, and the
record that it reported last is finished, did not crash, and is of the panel that was requested.  The
record that comes with a failure is a crash that is written down. -/
theorem measurement_returns_iff {store : RunStore} {clock : ℚ} {events : List MeasurementEvent}
    {outcome : Except MeasurementFailure ExperimentResult}
    (h : run (step repr taskIds) (start store clock) events = some s) (hended : s.phase = .ended outcome) :
    (Calm outcome → ∀ result, outcome = .ok result ↔ Trusted taskIds s result) ∧
      ∀ message result, outcome = .error (.measurementError message (some result)) →
        CrashRecord s result := by
  have hjudged : Relayed s ∧ ∀ outcome, s.phase = .ended outcome → Judged taskIds s outcome :=
    run_keeps (I := fun s ↦ Relayed s ∧ ∀ outcome, s.phase = .ended outcome → Judged taskIds s outcome)
      (E := fun _ ↦ True) ⟨relayed_start store clock, fun _ h ↦ by cases h⟩
      (fun _ _ _ hbefore _ hstep ↦
        ⟨hbefore.1.step (transition_of_step hstep),
          fun _ ↦ judged_step hbefore.1 hbefore.2 (transition_of_step hstep)⟩)
      (fun _ _ ↦ trivial) h
  exact ⟨(hjudged.2 outcome hended).returned, (hjudged.2 outcome hended).crashed⟩

/-- A worker that saves a finished record. -/
def succeeding : List MeasurementEvent :=
  [.sends (Report.data (.started "exp")), .advances 0, .saves (({} : RunStore).saveExperiment {
    experimentId := "exp"
    gitCommitHash := "sha"
    measurementIdentity := ⟨"config", "provider", "replay"⟩
    finishedAt := some 1
    tasks := [⟨"a", some { taskId := "a", failureMode := .verifiedRejected }⟩].toAList }), .exits 0 false,
    .advances 0, .advances 0, .advances 0, .advances 0, .advances 0]

theorem measurement_returns_iff_succeeding :
    ∃ s result, run (step id ["a"]) (start {} 0) succeeding = some s ∧ Trusted ["a"] s result := by
  obtain ⟨s, outcome, hrun, hended, hok⟩ :=
    exists_ended id ["a"] {} 0 succeeding (fun outcome ↦ outcome.isOk) (by decide +kernel)
  cases outcome with
  | error failure => cases hok
  | ok result =>
    have hcalm : Calm (.ok result) := fun _ ↦ by rintro ⟨⟩
    exact ⟨s, result, hrun, ((measurement_returns_iff hrun hended).1 hcalm result).mp rfl⟩

end Measurement

/-! ## The watchdog -/

/-- The parent watches, and calls no observer. -/
def MeasurementPhase.listens : MeasurementPhase → Bool
  | watching | polling _ => true
  | _ => false

/-- The parent watches. -/
def MeasurementPhase.watches : MeasurementPhase → Bool
  | forwarding false => true
  | phase => phase.listens

theorem MeasurementPhase.watches_of_listens {phase : MeasurementPhase} (h : phase.listens = true) :
    phase.watches = true := by
  cases phase <;> first | rfl | cases h

namespace Measurement

variable {repr : String → String} {taskIds : List TaskId} {s s' : Measurement} {started : ℚ}

/-- What the times of a run say. -/
structure Timely (started : ℚ) (s : Measurement) : Prop where
  sentAt : ∀ message ∈ s.sent, message.sentAt ≤ s.clock
  active : s.phase.watches → started ≤ s.lastActivity ∧ s.lastActivity ≤ s.clock
  listened : s.phase.listens → ∀ message ∈ s.sent.take s.received, message.sentAt ≤ s.lastActivity

theorem timely_start (store : RunStore) (clock : ℚ) : Timely clock (start store clock) where
  sentAt _ h := by cases h
  active _ := ⟨le_rfl, le_rfl⟩
  listened _ _ h := by cases h

theorem Timely.step {event : MeasurementEvent} (h : Timely started s) (hrelayed : Relayed s)
    (hstep : Transition taskIds s event s') : Timely started s' := by
  cases hstep with
  | sends data =>
    refine ⟨fun message hmessage ↦ ?_, h.active, fun hlistens message hmessage ↦ ?_⟩
    · rcases List.mem_append.mp hmessage with hbefore | hnow
      · exact h.sentAt message hbefore
      · obtain rfl := List.mem_singleton.mp hnow
        exact le_rfl
    · dsimp only at hmessage
      rw [List.take_append_of_le_length hrelayed.received_le] at hmessage
      exact h.listened hlistens message hmessage
  | saves | closes | exits => exact ⟨h.sentAt, h.active, h.listened⟩
  | passes seconds hpositive =>
    have hlater : s.clock ≤ s.clock + seconds := le_add_of_nonneg_right hpositive.le
    exact ⟨fun message hmessage ↦ (h.sentAt message hmessage).trans hlater,
      fun hwatches ↦ ⟨(h.active hwatches).1, (h.active hwatches).2.trans hlater⟩, h.listened⟩
  | polls now hphase =>
    exact ⟨h.sentAt, fun _ ↦ h.active (by rw [hphase]; rfl), fun _ ↦ h.listened (by rw [hphase]; rfl)⟩
  | repeats now hphase =>
    exact ⟨h.sentAt, fun _ ↦ h.active (by rw [hphase]; rfl), fun _ ↦ h.listened (by rw [hphase]; rfl)⟩
  | @forwards now draining message report hphase =>
    refine ⟨h.sentAt, fun hwatches ↦ h.active ?_, fun hlistens ↦ by cases hlistens⟩
    cases draining with
    | true => cases hwatches
    | false =>
      obtain ⟨since, hpolling⟩ := hphase
      rw [hpolling]
      rfl
  | told now hphase =>
    obtain ⟨hstarted, hactive⟩ := h.active (by rw [hphase]; rfl)
    exact ⟨h.sentAt, fun _ ↦ ⟨hstarted.trans hactive, le_rfl⟩,
      fun _ message hmessage ↦ h.sentAt message (List.mem_of_mem_take hmessage)⟩
  | ends now _ _ hconcludes =>
    cases hconcludes <;> exact ⟨h.sentAt, (by rintro ⟨⟩), (by rintro ⟨⟩)⟩
  | _ => exact ⟨h.sentAt, (by rintro ⟨⟩), (by rintro ⟨⟩)⟩

/-- Time passes only while the parent cannot go on. -/
def Prompt (s : Measurement) : MeasurementEvent → Prop
  | .passes seconds =>
    match s.phase with
    | .watching | .draining => False
    | .polling since => s.readable = false ∧ s.clock + seconds ≤ since + watchdogPollSec
    | _ => True
  | _ => True

/-- How long a prompt parent has listened to nothing. -/
def Bounded (s : Measurement) : Prop :=
  match s.phase with
  | .watching => s.clock ≤ s.lastActivity + watchdogInactivitySec
  | .polling since =>
    s.clock ≤ since + watchdogPollSec ∧ since ≤ s.lastActivity + watchdogInactivitySec
  | _ => True

theorem Bounded.step {event : MeasurementEvent} (h : Bounded s) (hprompt : s.Prompt event)
    (hstep : Transition taskIds s event s') : Bounded s' := by
  cases hstep with
  | sends | saves | closes | exits => exact h
  | passes seconds =>
    rw [Bounded] at h ⊢
    rw [Prompt] at hprompt
    cases hphase : s.phase with
    | watching =>
      rw [hphase] at hprompt
      exact hprompt.elim
    | polling since =>
      rw [hphase] at hprompt h
      exact ⟨hprompt.2, h.2⟩
    | _ => trivial
  | polls now hphase =>
    rw [Bounded, hphase] at h
    refine ⟨?_, h⟩
    rw [watchdogPollSec]
    linarith
  | repeats now hphase hactive => exact sub_le_iff_le_add'.mp hactive
  | told =>
    have hsame : s.clock ≤ s.clock + watchdogInactivitySec := by
      rw [watchdogInactivitySec]
      linarith
    exact hsame
  | ends now _ _ hconcludes => cases hconcludes <;> trivial
  | _ => trivial

theorem Bounded.le (h : Bounded s) (hlistens : s.phase.listens = true) :
    s.clock ≤ s.lastActivity + watchdogInactivitySec + watchdogPollSec := by
  rw [Bounded] at h
  cases hphase : s.phase with
  | watching =>
    rw [hphase] at h
    have hpoll : (0 : ℚ) ≤ watchdogPollSec := by decide
    linarith
  | polling since =>
    rw [hphase] at h
    linarith [h.1, h.2]
  | _ =>
    rw [hphase] at hlistens
    cases hlistens

/-- A step that kills the worker. -/
theorem kills_of_step {event : MeasurementEvent} (hstep : Transition taskIds s event s')
    (hbefore : s.killedByWatchdog = false) (hkilled : s'.killedByWatchdog = true) :
    ∃ since, s.phase = .polling since ∧ s.readable = false ∧
      watchdogInactivitySec < s.clock - s.lastActivity := by
  cases hstep with
  | kills now hphase hreadable hsilent => exact ⟨_, hphase, hreadable, hsilent⟩
  | ends now _ _ hconcludes => cases hconcludes <;> cases hbefore.symm.trans hkilled
  | _ => cases hbefore.symm.trans hkilled

/-- The parent has listened to nothing for half an hour. -/
def silent : Measurement := { start {} 0 with clock := 0 + 1801, phase := .polling 0 }

theorem run_silent : run (step id ["a"]) (start {} 0) [.advances 0, .passes 1801] = some silent := by
  simp [run_cons, step, advance, start, silent]

end Measurement

/-! ## The end -/

/-- A bound on the steps from a phase, if nothing is left to be received. -/
def MeasurementPhase.weight : MeasurementPhase → ℕ
  | forwarding false => 4
  | watching | polling _ | killing | forwarding true => 3
  | draining => 2
  | reaping .. => 1
  | ended _ => 0

namespace Measurement

variable {repr : String → String} {taskIds : List TaskId} {s s' : Measurement}

/-- A bound on the steps of a parent whose worker has exited. -/
def remaining (s : Measurement) : ℕ := 4 * (s.sent.length - s.received) + s.phase.weight

theorem remaining_phase {phase : MeasurementPhase} (h : phase.weight < s.phase.weight) :
    remaining { s with phase := phase } < s.remaining :=
  Nat.add_lt_add_left h _

theorem remaining_forwardEvent {draining : Bool} (h : (if draining then 2 else 3) ≤ s.phase.weight) :
    (s.forwardEvent draining).remaining < s.remaining := by
  have hweight : 2 ≤ s.phase.weight := h.trans' (by split <;> decide)
  have hfinalize (error : Option SuperviseError) : (s.finalize error).remaining < s.remaining :=
    remaining_phase (Nat.lt_of_succ_le hweight)
  unfold forwardEvent
  cases hmessage : s.sent[s.received]? with
  | some message =>
    have hlt : s.received < s.sent.length := (List.getElem?_eq_some_iff.mp hmessage).1
    dsimp only
    split
    · rw [remaining, remaining, forward]
      dsimp only
      cases draining with
      | true =>
        rw [MeasurementPhase.weight]
        omega
      | false =>
        rw [if_neg Bool.false_ne_true] at h
        rw [MeasurementPhase.weight]
        omega
    · exact hfinalize _
  | none =>
    dsimp only
    split_ifs with htorn hdraining
    · exact hfinalize _
    · exact hfinalize _
    · rw [if_neg hdraining] at h
      exact remaining_phase h

theorem Concludes.ended {now : Timestamp} {error : Option SuperviseError} {exitcode : ℤ}
    (h : Concludes taskIds s now error exitcode s') : (∃ outcome, s'.phase = .ended outcome) ∧
      s'.exitcode = s.exitcode ∧ s'.sent = s.sent ∧ s'.received = s.received := by
  cases h <;> exact ⟨⟨_, rfl⟩, rfl, rfl, rfl⟩

/-- A parent whose worker has exited never waits. -/
theorem advance_remaining (h : Relayed s) (hexited : s.exitcode.isSome) (now : Timestamp)
    (hopen : ∀ outcome, s.phase ≠ .ended outcome) :
    ∃ s', s.advance repr taskIds now = some s' ∧ s'.exitcode.isSome ∧ s'.remaining < s.remaining := by
  have hreadable : s.readable = true := readable_iff.mpr (Or.inr (h.exited hexited))
  have hforward (draining : Bool) : (s.forwardEvent draining).exitcode.isSome := by
    unfold forwardEvent
    split
    · split <;> exact hexited
    · split_ifs <;> exact hexited
  rw [advance.eq_def]
  cases hphase : s.phase with
  | watching =>
    refine ⟨_, rfl, hexited, ?_⟩
    rw [if_pos hexited]
    exact remaining_phase (by rw [hphase]; decide)
  | polling since =>
    simp only [hreadable, if_true]
    exact ⟨_, rfl, hforward false, remaining_forwardEvent (by rw [hphase]; exact le_rfl)⟩
  | forwarding draining =>
    cases draining with
    | true => exact ⟨_, rfl, hexited, remaining_phase (by rw [hphase]; decide)⟩
    | false =>
      refine ⟨_, rfl, hexited, ?_⟩
      have hweight : MeasurementPhase.weight .watching < s.phase.weight := by rw [hphase]; decide
      exact Nat.add_lt_add_left hweight _
  | killing =>
    simp only [hexited, if_true]
    exact ⟨_, rfl, hexited, remaining_phase (by rw [hphase]; decide)⟩
  | draining =>
    simp only [hreadable, if_true]
    exact ⟨_, rfl, hforward true, remaining_forwardEvent (by rw [hphase]; exact le_rfl)⟩
  | reaping error stage since =>
    obtain ⟨exitcode, hexitcode⟩ := Option.isSome_iff_exists.mp hexited
    simp only [hexitcode]
    have hconcludes : Concludes taskIds s now error exitcode (s.conclude repr taskIds now error exitcode) :=
      concludes_conclude s now error exitcode
    obtain ⟨⟨outcome, hended⟩, hexited', hsent, hreceived⟩ := hconcludes.ended
    refine ⟨_, rfl, hexited' ▸ hexited, ?_⟩
    rw [remaining, remaining, hsent, hreceived, hended, hphase]
    exact Nat.add_lt_add_left Nat.zero_lt_one _
  | ended outcome => exact absurd hphase (hopen outcome)

/-- The worker died at once. -/
def died : Measurement := { start {} 0 with exitcode := some 1, writable := false }

end Measurement

end HarnessTraining
