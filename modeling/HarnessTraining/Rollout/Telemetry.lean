import HarnessTraining.Library.PyJson.Tidy
import HarnessTraining.Llm.Backend
import HarnessTraining.Rollout.Runner

/-!
# The measurement boundary

`src/rollout/telemetry.py`: the event sink of one rollout, which writes the trace file and folds every
metric from what is announced to it, and the instrumented backend that announces the completions.

SHA-256 and the messages of the JSON decoder are parameters; so are the clock and the file, for every
row anew (`Writing`).

* `TelemetrySink.onCompletionReceived`, `onCompletionRejected`, `onNoValidActionStep`,
  `onStepCompleted`, `onPolicyEvent` — the announcements;
* `InstrumentedLlm.complete` — a completion between the backend and the policy.
-/

set_option autoImplicit false

namespace HarnessTraining

open Python StateExcept

/-! ## What is announced -/

abbrev PyDict := List (Text × PyJson)

/-- A dictionary with keys of this program. -/
def pyDict (members : List (String × PyJson)) : PyDict :=
  members.map fun member ↦ (ofString member.1, member.2)

/-- A tool call with any texts. -/
structure PyToolCall where
  name : Text
  arguments : Text

/-- A `Completion` with any texts. -/
structure PyCompletion where
  toolCalls : List PyToolCall := []
  content : Option Text := none
  finishReason : Option Text := none
  usage : Usage := {}
  reasoningContent : PyJson := .null
  response : PyDict := []
  servedFromCache : Bool := false

/-- `RolloutTelemetry`; the trace holds one row a line. -/
structure TelemetrySink where
  parseFailures : List (String × ℕ) := []
  firstAttemptValid : ℕ := 0
  firstAttemptTotal : ℕ := 0
  stepsTaken : ℕ := 0
  pendingCompletions : ℕ := 0
  liveLlmLatencies : List ℚ := []
  liveRates : List ℚ := []
  seenRequestShas : List Text := []
  trace : List PyDict := []

/-- An exception is what `error_text` makes of it. -/
abbrev TelemetryM := Prog TelemetrySink String

/-- What writing a row meets: the time, and whether the trace file takes the row. -/
structure Writing where
  tSec : Decimal
  disk : Except String Unit

/-- `_POLICY_EVENT_NAMES`. -/
def POLICY_EVENT_NAMES : List String := ["context_window_retrimmed", "action_parse_failed",
  "observation_clipped", "context_groups_dropped", "policy_rule"]

/-- What `str` says of an integer that is too long. -/
def WRITE_LIMIT : String := "ValueError: Exceeds the limit (4300 digits) for integer string " ++
  "conversion; use sys.set_int_max_str_digits() to increase the limit"

/-- What `int` says of a literal that is too long. -/
def readLimit (text : Text) : String :=
  let digits := ((PyJson.integerLiterals text).find? (PyJson.MAX_STR_DIGITS < ·)).getD 0
  "ValueError: Exceeds the limit (4300 digits) for integer string conversion: value has " ++
    s!"{digits} digits; use sys.set_int_max_str_digits() to increase the limit"

/-! ## Rows -/

section Rows

variable (sha256 decodeError : Text → Text)

/-- The truncated hash of a request blob. -/
def blobSha (blob : PyDict) : Option Text :=
  (PyJson.dump .compact (PyJson.sortKeys (.obj blob))).map fun text ↦ (sha256 text).take 12

/-- A blob that is written in full. -/
def fullBlob (blob : PyDict) (sha : Text) : PyDict := PyJson.setItem (ofString "sha") (.str sha) blob

/-- A blob that was written before. -/
def blobReference (refKeys : List String) (blob : PyDict) (sha : Text) : PyDict :=
  PyJson.setItem (ofString "sha") (.str sha)
    (refKeys.filterMap fun key ↦ (PyJson.get? (ofString key) blob).map (ofString key, ·))

/-- `_dedup_request_blob`. -/
def dedupRequestBlob (refKeys : List String) (blob : PyDict) : TelemetryM PyDict := do
  match blobSha sha256 blob with
  | none => throw WRITE_LIMIT
  | some sha =>
    if sha ∈ (← get).seenRequestShas then
      match refKeys.find? fun key ↦ (PyJson.get? (ofString key) blob).isNone with
      | some key => throw s!"KeyError: '{key}'"
      | none => return blobReference refKeys blob sha
    else
      modify fun telemetry ↦ { telemetry with seenRequestShas := sha :: telemetry.seenRequestShas }
      return fullBlob blob sha

/-- `call["arguments"] or` an empty object. -/
def PyToolCall.argumentsText (call : PyToolCall) : Text :=
  if call.arguments = [] then ofString "\x7b\x7d" else call.arguments

def parsedCall (index : ℕ) (call : PyToolCall) : Except String PyJson :=
  match PyJson.loads call.argumentsText with
  | .ok args => .ok (.obj (pyDict [
      ("call_index", .int index), ("name", .str call.name), ("args", args)]))
  | .error .malformed => .ok (.obj (pyDict [
      ("call_index", .int index), ("name", .str call.name), ("raw_arguments", .str call.arguments),
      ("args_error", .str (decodeError call.argumentsText))]))
  | .error .digitLimit => .error (readLimit call.argumentsText)

def Usage.asdict (usage : Usage) : PyJson := .obj (pyDict [
  ("prompt_tokens", .ofOption .int usage.promptTokens),
  ("completion_tokens", .ofOption .int usage.completionTokens),
  ("reasoning_tokens", .ofOption .int usage.reasoningTokens),
  ("cached_input_tokens", .ofOption .int usage.cachedInputTokens)])

/-- `dataclasses.asdict` without the tool calls. -/
def PyCompletion.asdict (completion : PyCompletion) : PyDict := pyDict [
  ("content", .ofOption .str completion.content),
  ("finish_reason", .ofOption .str completion.finishReason),
  ("usage", completion.usage.asdict),
  ("reasoning_content", completion.reasoningContent),
  ("response", .obj completion.response),
  ("served_from_cache", .bool completion.servedFromCache)]

/-- `_completion_with_parsed_calls`. -/
def completionWithParsedCalls (completion : PyCompletion) : Except String PyDict := do
  let calls ← completion.toolCalls.zipIdx.mapM fun call ↦ parsedCall decodeError call.2 call.1
  return completion.asdict ++ pyDict [("calls", .arr calls)]

/-- `_slim_completion_event`. -/
def slimCompletionEvent (stepIndex attemptIndex : ℕ) (requestMessages requestTools : List PyDict)
    (completion : PyCompletion) (llmLatencySec : Decimal) : TelemetryM PyDict := do
  let messages ← requestMessages.mapM (dedupRequestBlob sha256 ["role"])
  let tools ← dedupRequestBlob sha256 [] (pyDict [("tools", .arr (requestTools.map .obj))])
  match completionWithParsedCalls decodeError completion with
  | .error text => throw text
  | .ok completion => return pyDict [
      ("step_index", .int stepIndex),
      ("attempt_index", .int attemptIndex),
      ("request_messages", .arr (messages.map .obj)),
      ("request_tools", .obj tools),
      ("completion", .obj completion),
      ("llm_latency_sec", .float llmLatencySec)]

end Rows

/-! ## The event sink -/

namespace TelemetrySink

/-- The row of an event. -/
def row (tSec : Decimal) (name : String) (fields : PyDict) : PyDict :=
  PyJson.setItem (ofString "t_sec") (.float tSec)
    (PyJson.setItem (ofString "event") (.str (ofString name)) fields)

/-- Add a row to the trace file. -/
def event (writing : Writing) (name : String) (fields : PyDict) : TelemetryM Unit :=
  match writing.disk, PyJson.dump .spaced (.obj (row writing.tSec name fields)) with
  | .error text, _ => throw text
  | .ok (), none => throw WRITE_LIMIT
  | .ok (), some _ => modify fun telemetry ↦
      { telemetry with trace := telemetry.trace ++ [row writing.tSec name fields] }

/-- `_conclude_decision`: a decision without a completion is no sample. -/
def concludeDecision (valid : Bool) (telemetry : TelemetrySink) : TelemetrySink :=
  if telemetry.pendingCompletions = 0 then telemetry
  else
    { telemetry with
      firstAttemptTotal := telemetry.firstAttemptTotal + 1
      firstAttemptValid := telemetry.firstAttemptValid +
        if valid = true ∧ telemetry.pendingCompletions = 1 then 1 else 0
      pendingCompletions := 0 }

/-- Count one more parse failure. -/
def countFailure (error : String) : List (String × ℕ) → List (String × ℕ)
  | [] => [(error, 1)]
  | failure :: failures =>
    if failure.1 = error then (error, failure.2 + 1) :: failures
    else failure :: countFailure error failures

/-- `on_policy_event`; `error` is the field of that name. -/
def onPolicyEvent (writing : Writing) (name : String) (error : Option String) (fields : PyDict) :
    TelemetryM Unit :=
  if name ∉ POLICY_EVENT_NAMES then throw s!"ValueError: unknown policy event: {name}"
  else if name = "action_parse_failed" then
    match error with
    | none => throw "KeyError: 'error'"
    | some error => do
      modify fun telemetry ↦
        { telemetry with parseFailures := countFailure error telemetry.parseFailures }
      event writing name fields
  else event writing name fields

/-- What a live completion adds to the measurements. -/
def measure (completion : PyCompletion) (latency : ℚ) (telemetry : TelemetrySink) : TelemetrySink :=
  if completion.servedFromCache then telemetry
  else
    { telemetry with
      liveLlmLatencies := telemetry.liveLlmLatencies ++ [latency]
      liveRates := telemetry.liveRates ++ match completion.usage.completionTokens with
        | some tokens => if 0 < latency then [tokens / latency] else []
        | none => [] }

/-- The index of an attempt, which is pending from now on. -/
def attempt : TelemetryM ℕ := do
  let telemetry ← get
  modify fun telemetry ↦ { telemetry with pendingCompletions := telemetry.pendingCompletions + 1 }
  return telemetry.pendingCompletions

/-- `on_completion_received`. -/
def onCompletionReceived (sha256 decodeError : Text → Text) (writing : Writing)
    (requestMessages requestTools : List PyDict) (completion : PyCompletion)
    (llmLatencySec : Decimal) : TelemetryM Unit := do
  let attemptIndex ← attempt
  modify (measure completion (Number.float llmLatencySec).toRat)
  let fields ← slimCompletionEvent sha256 decodeError ((← get).stepsTaken + 1) attemptIndex
    requestMessages requestTools completion llmLatencySec
  event writing "completion_received" fields

/-- `on_completion_rejected`. -/
def onCompletionRejected (writing : Writing) (error : Text) : TelemetryM Unit := do
  let attemptIndex ← attempt
  event writing "completion_rejected" (pyDict [
    ("step_index", .int ((← get).stepsTaken + 1 : ℕ)), ("attempt_index", .int attemptIndex),
    ("error", .str error)])

/-- `on_no_valid_action_step`. -/
def onNoValidActionStep (writing : Writing) (stepIndex : ℕ) : TelemetryM Unit := do
  modify (concludeDecision false)
  modify fun telemetry ↦ { telemetry with stepsTaken := stepIndex }
  event writing "no_valid_action_step" (pyDict [("step_index", .int stepIndex)])

/-- `on_step_completed`. -/
def onStepCompleted (writing : Writing) (stepIndex callIndex : ℕ) (stepResult : StepResult)
    (terminal : Bool) : TelemetryM Unit := do
  if callIndex = 0 then modify (concludeDecision true)
  modify fun telemetry ↦ { telemetry with stepsTaken := stepIndex }
  event writing "step_completed" (pyDict [
    ("step_index", .int stepIndex), ("call_index", .int callIndex),
    ("step_result", .ofJson stepResult.toJson), ("terminal", .bool terminal)])

/-! ## Metrics -/

/-- `round(value, 4)`, ties to even. -/
def round4 (value : ℚ) : ℚ :=
  let scaled := value * 10000
  let rest := scaled - scaled.floor
  (if rest < 1 / 2 ∨ rest = 1 / 2 ∧ scaled.floor % 2 = 0 then scaled.floor else scaled.floor + 1) / 10000

def sorted (values : List ℚ) : List ℚ := values.mergeSort fun a b ↦ decide (a ≤ b)

/-- `statistics.median`. -/
def medianOf (values : List ℚ) : ℚ :=
  let half := values.length / 2
  if values.length % 2 = 1 then (sorted values).getD half 0
  else ((sorted values).getD (half - 1) 0 + (sorted values).getD half 0) / 2

/-- The first of `statistics.quantiles(values, n=4, method="inclusive")`. -/
def firstQuartile (values : List ℚ) : ℚ :=
  let j := (values.length - 1) / 4
  let delta := (values.length - 1) % 4
  ((sorted values).getD j 0 * (4 - delta : ℕ) + (sorted values).getD (j + 1) 0 * delta) / 4

/-- What `metrics` reads. -/
def counted (telemetry : TelemetrySink) : RolloutTelemetry where
  firstAttemptValid := telemetry.firstAttemptValid
  firstAttemptTotal := telemetry.firstAttemptTotal
  liveLatencies := if telemetry.liveLlmLatencies = [] then none else some
    (telemetry.liveLlmLatencies.length, round4 telemetry.liveLlmLatencies.sum,
      round4 (medianOf telemetry.liveLlmLatencies))
  p25LiveRate :=
    if 3 ≤ telemetry.liveRates.length then some (round4 (firstQuartile telemetry.liveRates)) else none
  parseFailures := telemetry.parseFailures

end TelemetrySink

/-! ## Announcements -/

/-- What is announced to the event sink. -/
inductive Announcement where
  | policyEvent (name : String) (error : Option String) (fields : PyDict)
  | completionReceived (requestMessages requestTools : List PyDict) (completion : PyCompletion)
    (llmLatencySec : Decimal)
  | completionRejected (error : Text)
  | noValidActionStep (stepIndex : ℕ)
  | stepCompleted (stepIndex callIndex : ℕ) (stepResult : StepResult) (terminal : Bool)

namespace Announcement

/-- The name of its row. -/
def eventName : Announcement → String
  | policyEvent name _ _ => name
  | completionReceived _ _ _ _ => "completion_received"
  | completionRejected _ => "completion_rejected"
  | noValidActionStep _ => "no_valid_action_step"
  | stepCompleted _ _ _ _ => "step_completed"

variable (sha256 decodeError : Text → Text)

/-- Pass an announcement to its method. -/
def record (writing : Writing) : Announcement → TelemetryM Unit
  | policyEvent name error fields => TelemetrySink.onPolicyEvent writing name error fields
  | completionReceived requestMessages requestTools completion llmLatencySec =>
    TelemetrySink.onCompletionReceived sha256 decodeError writing requestMessages requestTools completion
      llmLatencySec
  | completionRejected error => TelemetrySink.onCompletionRejected writing error
  | noValidActionStep stepIndex => TelemetrySink.onNoValidActionStep writing stepIndex
  | stepCompleted stepIndex callIndex stepResult terminal =>
    TelemetrySink.onStepCompleted writing stepIndex callIndex stepResult terminal

/-- What an announcement leaves, also if it raises. -/
def leaves (announced : Announcement × Writing) (telemetry : TelemetrySink) : TelemetrySink :=
  (exec (announced.1.record sha256 decodeError announced.2) telemetry).2

end Announcement

/-! ## The instrumented backend -/

/-- Framework code between the policy and the provider failed. -/
def frameworkFailure (text : String) : CompletionError := .typed (.framework text)

/-- `InstrumentedLlm.complete`, of what the inner backend comes to. -/
def InstrumentedLlm.complete (sha256 decodeError : Text → Text) (writing : Writing)
    (requestMessages requestTools : List PyDict) (llmLatencySec : Decimal) :
    Except CompletionError PyCompletion → Prog TelemetrySink CompletionError PyCompletion
  | .ok completion => do
    raiseAs frameworkFailure (TelemetrySink.onCompletionReceived sha256 decodeError writing
      requestMessages requestTools completion llmLatencySec)
    return completion
  | .error (.typed (.providerRejectedToolCall text)) => do
    raiseAs frameworkFailure (TelemetrySink.onCompletionRejected writing (ofString text))
    throw (.typed (.providerRejectedToolCall text))
  | .error error => throw error

end HarnessTraining
