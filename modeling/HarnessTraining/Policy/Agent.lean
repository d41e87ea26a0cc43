import HarnessTraining.Library.StateExcept
import HarnessTraining.Llm.Backend
import HarnessTraining.Policy.Core

/-!
# The agent

`LlmAgent` of `src/policy/core.py`.  `_complete_fitted` asks for a completion and shrinks the request
as long as the server says that it overflows; `act` parses what comes back and asks for repairs.

The backend is a function of the requests of the rollout so far, so a run of the agent is a run with
any sequence of replies.  A call of `_complete_fitted` is kept with what it sent (`Fitting`).
-/

set_option autoImplicit false

namespace HarnessTraining

open StateExcept

deriving instance DecidableEq for RunArgs, ToolArgs, PolicyAction

/-! ## Requests -/

def Role.text : Role → String
  | .system => "system"
  | .user => "user"
  | .assistant => "assistant"
  | .tool => "tool"

def ReplayedCall.toJson (call : ReplayedCall) : Json := .obj [
  ("id", .str call.id),
  ("type", .str "function"),
  ("function", .obj [("name", .str call.name), ("arguments", .str call.arguments)])]

def Message.toJson (message : Message) : Json := .obj <|
  ("role", .str message.role.text) ::
    (message.toolCallId.map fun id ↦ ("tool_call_id", Json.str id)).toList ++
    ("content", Json.ofOption .str message.content) ::
    if message.toolCalls = [] then [] else
      [("tool_calls", .arr (message.toolCalls.map ReplayedCall.toJson))]

structure ToolSpec where
  name : String
  description : String
  parameters : Json

def ToolSpec.toJson (spec : ToolSpec) : Json := .obj [
  ("type", .str "function"),
  ("function", .obj [
    ("name", .str spec.name),
    ("description", .str spec.description),
    ("parameters", spec.parameters)])]

/-- The description of a tool in `TOOLS`. -/
def ActionName.description : ActionName → String
  | .run => "Run one shell command."
  | .submit => "Submit the current solution for grading."

/-- `build_tool_specs`, with the schemas of the argument models. -/
def buildToolSpecs (schema : ActionName → Json) : List ToolSpec :=
  [ActionName.run, .submit].map fun name ↦
    { name := name.text, description := name.description, parameters := schema name }

/-! ## Parsing and repair -/

/-- What Python and the argument models make of the text of a call.  What `json.loads` raises is a
type and a text. -/
structure ArgumentModels where
  isSpace : Char → Bool
  repr : String → String
  loads : String → Except (String × String) Json
  modelValidate : ActionName → List (String × Json) → Except String ToolArgs
  schema : ActionName → Json

/-- `MissingToolCall`, or another `ValueError`. -/
inductive ActionFault where
  | missingToolCall
  | invalid (typeName detail : String)
  deriving DecidableEq

def ActionFault.typeName : ActionFault → String
  | .missingToolCall => "MissingToolCall"
  | .invalid typeName _ => typeName

def ActionFault.detail : ActionFault → String
  | .missingToolCall => "model response omitted required tool call"
  | .invalid _ detail => detail

namespace ActionParser

variable (models : ArgumentModels)

/-- `args_text.strip()`. -/
def strip (text : String) : String :=
  String.ofList ((text.toList.dropWhile models.isSpace).rdropWhile models.isSpace)

def parseArgs (argsText : String) : Except ActionFault Json :=
  let raw := strip models argsText
  if raw = "" then return .obj []
  else (models.loads raw).mapError fun fault ↦ .invalid fault.1 fault.2

def validateArgs (actionName : ActionName) : Json → Except ActionFault ToolArgs
  | .obj members => (models.modelValidate actionName members).mapError (.invalid "ValidationError")
  | _ => throw (.invalid "ValueError" (actionName.text ++ ": arguments must decode to an object"))

/-- The action of an offered name. -/
def action (actionName : ActionName) (arguments : String) : Except ActionFault PolicyAction := do
  return { name := actionName, args := ← validateArgs models actionName (← parseArgs models arguments) }

/-- The action names of the tools. -/
def actionName? (name : String) : Option ActionName :=
  [ActionName.run, .submit].find? fun actionName ↦ actionName.text = name

def notOffered (name : String) : ActionFault :=
  .invalid "ValueError" ("tool " ++ models.repr name ++ " was not offered on this request; " ++
    "offered tools: " ++ ", ".intercalate ([ActionName.run, .submit].map ActionName.text))

/-- The calls of a completion, under the names that are offered. -/
def offered (call : ToolCall) : Except ActionFault (ActionName × String) :=
  match actionName? call.name with
  | some actionName => return (actionName, call.arguments)
  | none => throw (notOffered models call.name)

/-- Every name is checked before any arguments are. -/
def actions (completion : Completion) : Except ActionFault (List PolicyAction) := do
  if completion.toolCalls = [] then throw .missingToolCall
  let calls ← completion.toolCalls.mapM (offered models)
  calls.mapM fun call ↦ action models call.1 call.2

def MISSING_TOOL_CALL_REPAIR_PROMPT : String :=
  "Your previous response omitted the required tool call. " ++
    "Return one or more tool calls and no natural language."

/-- The turn of `INVALID_TOOL_CALL_REPAIR_PROMPT`. -/
def invalidToolCallRepair (error : String) : List Message := [
  { role := .user
    content := some ("Your previous tool call was invalid: " ++ error ++
      "\nEmit a corrected JSON tool call this turn.") }]

def repairMessages (completion : Completion) : ActionFault → List Message
  | .missingToolCall => [
    { role := .assistant, content := some (completion.content.getD "") },
    { role := .user, content := some MISSING_TOOL_CALL_REPAIR_PROMPT }]
  | .invalid _ detail => invalidToolCallRepair detail

end ActionParser

/-! ## The window learns -/

/-- `a / b`. -/
def divide (a b : ℚ) : Except String ℚ :=
  if b = 0 then throw "ZeroDivisionError: division by zero" else return a / b

namespace ContextWindow

def MAX_CALIBRATION : ℚ := 4

def CALIBRATION_MARGIN : ℚ := 105 / 100

def BLIND_RETRIM_STEP : ℚ := 13 / 10

def RETRIM_BUDGET : ℕ := 3

variable (window : ContextWindow)

def calibrateFromUsage (completion : Completion) (request : List Message) :
    Except String ContextWindow :=
  match completion.usage.promptTokens with
  | none => return window
  | some real => do
    let density ← divide real (window.estimateRequestTokens request)
    return { window with calibration := min MAX_CALIBRATION (max 1 density) }

/-- The calibration that an overflow asks for. -/
def overflowTarget (inputTokens : Option ℕ) (request : List Message) : Except String ℚ :=
  match inputTokens with
  | some inputTokens => do
    return (← divide inputTokens (window.estimateRequestTokens request)) * CALIBRATION_MARGIN
  | none => return window.calibration * BLIND_RETRIM_STEP

/-- `shrink_for_overflow`: nothing if the window is as small as it gets. -/
def shrinkForOverflow (inputTokens : Option ℕ) (request : List Message) :
    Except String (Option ContextWindow) := do
  let newCalibration :=
    min MAX_CALIBRATION (max window.calibration (← window.overflowTarget inputTokens request))
  return if newCalibration ≤ window.calibration then none
    else some { window with calibration := newCalibration }

end ContextWindow

/-! ## A fitted completion -/

/-- What the agent tells its callback. -/
inductive AgentEvent where
  | policyRule (stepIndex : ℕ) (rule : String) (fired : Bool)
  | observationClipped (stepIndex : ℕ) (field : String)
  | contextGroupsDropped (stepIndex dropped : ℕ)
  | contextWindowRetrimmed (stepIndex attemptIndex : ℕ) (limit requested : Option ℕ) (calibration : ℚ)
  | actionParseFailed (stepIndex : ℕ) (error detail : String)

/-- What `_complete_fitted` may raise. -/
inductive FittingError where
  /-- The agent's own code raised. -/
  | raised (text : String)
  | completion (error : CompletionError)

inductive AgentError where
  | fitting (error : FittingError)
  | noValidAction (text : String)
  | repeatedLengthCutoff (text : String)

/-- A request, what it was fitted with, and its reply. -/
structure SentRequest where
  request : CompletionRequest
  calibration : ℚ
  dropped : ℕ
  reply : Except CompletionError Completion

/-- A call of `_complete_fitted`: what it sent, the window it left, what it told, how it ended. -/
structure Fitting where
  sent : List SentRequest := []
  window : ContextWindow
  events : List AgentEvent := []
  result : Except FittingError Completion

/-- A round before the others. -/
def Fitting.after (rest : Fitting) (sent : SentRequest) (events : List AgentEvent) : Fitting :=
  { rest with sent := sent :: rest.sent, events := events ++ rest.events }

/-- What a reply makes of the window: the loop is done, or goes on. -/
inductive Round where
  | done (window : ContextWindow)
  | again (window : ContextWindow) (limit requested : Option ℕ)

def ContextWindow.settle (window : ContextWindow) (messages : List Message) :
    Except CompletionError Completion → Except String Round
  | .ok completion => do return .done (← window.calibrateFromUsage completion messages)
  | .error (.typed (.contextWindowExceeded _ limit requested inputTokens)) => do
    match ← window.shrinkForOverflow inputTokens messages with
    | none => return .done window
    | some window' => return .again window' limit requested
  | .error _ => return .done window

/-- The outcome that a reply gives `_complete_fitted`. -/
def outcomeOf : Except CompletionError Completion → Except FittingError Completion
  | .ok completion => .ok completion
  | .error error => .error (.completion error)

/-- The arguments of a call of `_complete_fitted`, and what is assembled for it. -/
structure FittedCall where
  head : List Message
  stepGroups : List (List Message)
  floor : ℤ
  turnMessages : List Message
  stepIndex : ℕ
  attemptIndex : ℕ
  enableThinking : Option Bool

/-- The request of a round. -/
def FittedCall.request (call : FittedCall) (window : ContextWindow) (messages : List Message) :
    CompletionRequest where
  messages := messages.map Message.toJson
  tools := window.tools
  enableThinking := call.enableThinking

/-- The reply to the last of the requests so far. -/
abbrev Replies := List CompletionRequest → Except CompletionError Completion

/-- The loop of `_complete_fitted`, with `n` rounds left; `last` is what is raised after them. -/
def FittedCall.rounds (call : FittedCall) (llm : Replies) :
    ℕ → List CompletionRequest → ContextWindow → Except FittingError Completion → Fitting
  | 0, _, window, last => { window, result := last }
  | n + 1, earlier, window, _ =>
    match window.fit call.head call.stepGroups call.floor call.turnMessages with
    | .error text => { window, result := .error (.raised text) }
    | .ok (baseMessages, dropped) =>
      let events := if 0 < dropped then [.contextGroupsDropped call.stepIndex dropped] else []
      let messages := baseMessages ++ call.turnMessages
      let request := call.request window messages
      let reply := llm (earlier ++ [request])
      let sent : SentRequest := { request, calibration := window.calibration, dropped, reply }
      match window.settle messages reply with
      | .error text => { sent := [sent], window, events, result := .error (.raised text) }
      | .ok (.done window') => { sent := [sent], window := window', events, result := outcomeOf reply }
      | .ok (.again window' limit requested) =>
        (call.rounds llm n (earlier ++ [request]) window' (outcomeOf reply)).after sent
          (events ++ [.contextWindowRetrimmed call.stepIndex call.attemptIndex limit requested
            window'.calibration])

/-! ## The agent -/

/-- The configuration of an agent. -/
structure LlmAgent where
  llm : Replies
  models : ArgumentModels
  maxContextLength : ℤ
  maxCompletionTokens : ℤ
  maxOutputRetries : ℕ := 2
  thinkingToggleable : Bool := false
  tokenCounter : Option HfTokenCounter := none

/-- What changes over a rollout. -/
structure AgentState where
  initialEnvOutput : RawEnvOutput
  trajectory : Trajectory := []
  window : ContextWindow
  thinkingDisabled : Bool := false
  lengthCutoffMissingToolCalls : ℕ := 0
  /-- The calls of `_complete_fitted` so far. -/
  fittings : List Fitting := []
  events : List AgentEvent := []

/-- The requests so far. -/
def AgentState.requests (s : AgentState) : List CompletionRequest :=
  s.fittings.flatMap fun fitting ↦ fitting.sent.map SentRequest.request

structure ReminderRule where
  name : String
  build : LlmAgent → AgentState → ℕ → List Message

structure ActionGuard where
  name : String
  apply : LlmAgent → AgentState → List PolicyAction → List PolicyAction

def REMINDER_RULES : List ReminderRule := []

def ACTION_GUARDS : List ActionGuard := []

/-- The programs of the agent. -/
abbrev Act (α : Type) := Prog AgentState AgentError α

def announce (event : AgentEvent) : Act Unit := modify fun s ↦ { s with events := s.events ++ [event] }

/-- `would_clip`. -/
def RequestBuilder.wouldClip (builder : RequestBuilder) (text : String) : Bool :=
  match builder.tokenCounter with
  | some counter => decide (RESULT_TOKEN_LIMIT < counter.count text)
  | none => decide (RESULT_CHAR_LIMIT < text.length)

namespace LlmAgent

def LENGTH_CUTOFF_ABORT_THRESHOLD : ℕ := 2

variable (agent : LlmAgent)

def requestBuilder : RequestBuilder := { tokenCounter := agent.tokenCounter }

def reset (rawEnvOutput : RawEnvOutput) : AgentState where
  initialEnvOutput := rawEnvOutput
  window := {
    maxContextLength := agent.maxContextLength
    maxCompletionTokens := agent.maxCompletionTokens
    tools := (buildToolSpecs agent.models.schema).map ToolSpec.toJson
    tokenCounter := agent.tokenCounter }

/-- The stream of an observation that is clipped, if it is. -/
def clippedField (stepIndex : ℕ) (field text : String) : List AgentEvent :=
  if text ≠ "" ∧ agent.requestBuilder.wouldClip (rstripNewlines text) = true then
    [.observationClipped stepIndex field]
  else []

def observe (action : PolicyAction) (stepResult : StepResult) (s : AgentState) : AgentState :=
  if stepResult.terminated || stepResult.truncated then s
  else
    let raw := stepResult.rawEnvOutput
    let trajectory := s.trajectory ++ [.executed action raw]
    { s with
      trajectory
      events := s.events ++ agent.clippedField trajectory.length "stdout" raw.stdout ++
        agent.clippedField trajectory.length "stderr" raw.stderr }

def reminderMessages (stepIndex : ℕ) : Act (List Message) :=
  REMINDER_RULES.foldlM (fun chosen rule ↦ do
    let messages := rule.build agent (← get) stepIndex
    announce (.policyRule stepIndex rule.name (decide (messages ≠ [])))
    return if chosen = [] then messages else chosen) []

def guardActions (actions : List PolicyAction) (stepIndex : ℕ) : Act (List PolicyAction) :=
  ACTION_GUARDS.foldlM (fun actions rule ↦ do
    let guarded := rule.apply agent (← get) actions
    announce (.policyRule stepIndex rule.name (decide (guarded ≠ actions)))
    return guarded) actions

/-- The call of `_complete_fitted` from a state. -/
def fitting (s : AgentState) (turnMessages : List Message) (stepIndex attemptIndex : ℕ)
    (enableThinking : Option Bool) : Fitting :=
  match agent.requestBuilder.assemble s.initialEnvOutput.instruction s.initialEnvOutput.workingDir
      s.trajectory with
  | .error text => { window := s.window, result := .error (.raised text) }
  | .ok (head, stepGroups, floor) =>
    FittedCall.rounds
      { head, stepGroups, floor, turnMessages, stepIndex, attemptIndex, enableThinking } agent.llm
      (ContextWindow.RETRIM_BUDGET + 1) s.requests s.window
      (.error (.raised "AssertionError"))

/-- A call of `_complete_fitted` is over. -/
def record (s : AgentState) (fitting : Fitting) : AgentState :=
  { s with
    window := fitting.window
    fittings := s.fittings ++ [fitting]
    events := s.events ++ fitting.events }

/-- `_complete_fitted`. -/
def completeFitted (turnMessages : List Message) (stepIndex attemptIndex : ℕ)
    (enableThinking : Option Bool) : Act Completion := do
  let s ← get
  let fitting := agent.fitting s turnMessages stepIndex attemptIndex enableThinking
  set (record s fitting)
  match fitting.result with
  | .ok completion => return completion
  | .error error => throw (.fitting error)

/-- `_complete_fitted` in `act`: the text of a rejection is an answer. -/
def answer (turnMessages : List Message) (stepIndex attemptIndex : ℕ)
    (enableThinking : Option Bool) : Act (Except String Completion) :=
  tryCatch (.ok <$> agent.completeFitted turnMessages stepIndex attemptIndex enableThinking) fun
    | .fitting (.completion (.typed (.providerRejectedToolCall text))) => return .error text
    | error => throw error

/-- Every attempt failed. -/
def giveUp (attempts : ℕ) (error : String) : Act (List PolicyAction) := do
  modify fun s ↦ { s with trajectory := s.trajectory ++ [.failed { attempts, error }] }
  throw (.noValidAction "failed to parse a valid action call")

/-- The thinking mode after a reply was cut off. -/
def dropThinking (enableThinking : Option Bool) : Act (Option (Option Bool)) := do
  if agent.thinkingToggleable then
    modify fun s ↦ { s with thinkingDisabled := true }
    return some (some false)
  else return some enableThinking

/-- What an invalid reply that was cut off leads to: the thinking mode of the next attempt, or none
if a next attempt would go the same way. -/
def cutOff (completion : Completion) (fault : ActionFault) (enableThinking : Option Bool) :
    Act (Option (Option Bool)) :=
  if completion.finishReason = some "length" then
    match fault with
    | .missingToolCall => do
      modify fun s ↦ { s with lengthCutoffMissingToolCalls := s.lengthCutoffMissingToolCalls + 1 }
      let s ← get
      if LENGTH_CUTOFF_ABORT_THRESHOLD ≤ s.lengthCutoffMissingToolCalls then
        throw (.repeatedLengthCutoff "repeated length-truncated model outputs")
      else agent.dropThinking enableThinking
    | .invalid _ _ => do
      let s ← get
      if s.thinkingDisabled || !agent.thinkingToggleable then return none
      else agent.dropThinking enableThinking
  else return some enableThinking

/-- The loop of `act`, with `n` attempts left. -/
def attempts (stepIndex : ℕ) :
    ℕ → ℕ → List Message → String → Option Bool → Act (List PolicyAction)
  | 0, attemptIndex, _, lastError, _ => giveUp attemptIndex lastError
  | n + 1, attemptIndex, turnMessages, _, enableThinking => do
    match ← agent.answer turnMessages stepIndex attemptIndex enableThinking with
    | .error text => do
      announce (.actionParseFailed stepIndex "ProviderRejectedToolCallError" text)
      attempts stepIndex n (attemptIndex + 1) (ActionParser.invalidToolCallRepair text) text
        enableThinking
    | .ok completion =>
      match ActionParser.actions agent.models completion with
      | .ok actions => agent.guardActions actions stepIndex
      | .error fault => do
        announce (.actionParseFailed stepIndex fault.typeName fault.detail)
        match ← agent.cutOff completion fault enableThinking with
        | none => giveUp (attemptIndex + 1) fault.detail
        | some enableThinking' =>
          attempts stepIndex n (attemptIndex + 1) (ActionParser.repairMessages completion fault)
            fault.detail enableThinking'

def act : Act (List PolicyAction) := do
  let s ← get
  let stepIndex := s.trajectory.length + 1
  let turnMessages ← agent.reminderMessages stepIndex
  let s ← get
  agent.attempts stepIndex (agent.maxOutputRetries + 1) 0 turnMessages "unknown parse error"
    (if s.thinkingDisabled then some false else none)

/-! ## Rollouts -/

/-- What the owner of an agent calls. -/
inductive Call where
  | act
  | observe (action : PolicyAction) (stepResult : StepResult)

def call (s : AgentState) : Call → AgentState
  | .act => (exec agent.act s).2
  | .observe action stepResult => agent.observe action stepResult s

/-- The agent after a reset and some calls. -/
def after (rawEnvOutput : RawEnvOutput) (calls : List Call) : AgentState :=
  calls.foldl agent.call (agent.reset rawEnvOutput)

end LlmAgent

end HarnessTraining
