import HarnessTraining.Llm.TokenCounter
import HarnessTraining.Env.Base

/-!
# The editable harness: requests and their window

`src/policy/core.py`: a trajectory is rendered into chat messages, one group for each step, and the
oldest groups are dropped until the request leaves room for the reply.
-/

set_option autoImplicit false

namespace Json

mutual

/-- `json.dumps` with its default separators. -/
def renderSpaced : Json → List Char
  | .arr items => '[' :: renderSpacedItems items
  | .obj members => '{' :: renderSpacedMembers members
  | value => render value

def renderSpacedItems : List Json → List Char
  | [] => [']']
  | [item] => renderSpaced item ++ [']']
  | item :: items => renderSpaced item ++ ',' :: ' ' :: renderSpacedItems items

def renderSpacedMembers : List (String × Json) → List Char
  | [] => ['}']
  | [(key, value)] => renderString key ++ ':' :: ' ' :: renderSpaced value ++ ['}']
  | (key, value) :: members =>
    renderString key ++ ':' :: ' ' :: renderSpaced value ++ ',' :: ' ' :: renderSpacedMembers members

end

end Json

namespace HarnessTraining

/-! ## Prompt surface -/

def COMMAND_TIMEOUT_SEC : ℕ := 300

def buildSystemPrompt : String := "\n".intercalate [
  "You are controlling a coding environment.",
  "Use run to execute shell commands in the environment.",
  "Each run command is terminated after its timeout_sec (default " ++ toString COMMAND_TIMEOUT_SEC ++
    "s) and returns the output captured so far.",
  "Observation text may mask volatile tokens as <TIME>, <PID>, <BINARY_STDOUT>, and similar " ++
    "placeholders; treat them as framework redactions of unstable runtime data.",
  "Return one or more tool calls. They execute in order with no intermediate observation, then " ++
    "the resulting observation appears in the next turn.",
  "Call submit when the solution is ready for the authoritative task judgment; submit ends the " ++
    "trial and the on-disk state of the environment at that point is what is graded."]

/-- `value or default`. -/
def orElse (value : Option String) (default : String) : String :=
  match value with
  | some text => if text = "" then default else text
  | none => default

def initialUserPrompt (instruction : String) (workingDir : Option String) : String :=
  "\n\n".intercalate ["Task instruction:", instruction,
    "working_dir: " ++ orElse workingDir "(unknown)"]

/-- `CONTEXT_OMITTED_NOTE_TEMPLATE`. -/
def contextOmittedNote (dropped : ℕ) : String :=
  "[" ++ toString dropped ++ " earlier step(s) omitted to fit the context window; " ++
    "continue from the steps below.]"

/-! ## Actions -/

inductive ActionName where
  | run
  | submit
  deriving DecidableEq

def ActionName.text : ActionName → String
  | .run => "run"
  | .submit => "submit"

structure RunArgs where
  command : String
  cwd : Option String := none
  timeoutSec : ℤ := COMMAND_TIMEOUT_SEC
  nonempty : command ≠ ""
  positive : 1 ≤ timeoutSec

inductive ToolArgs where
  | run (args : RunArgs)
  | submit

structure PolicyAction where
  name : ActionName
  args : ToolArgs

/-- `model_dump(exclude_none=True)`. -/
def ToolArgs.modelDump : ToolArgs → List (String × Json)
  | .run args =>
    ("command", .str args.command) :: (args.cwd.map fun cwd ↦ ("cwd", Json.str cwd)).toList ++
      [("timeout_sec", .int args.timeoutSec)]
  | .submit => []

/-! ## Messages -/

inductive Role where
  | system
  | user
  | assistant
  | tool
  deriving DecidableEq

/-- An entry of `tool_calls`. -/
structure ReplayedCall where
  id : String
  name : String
  arguments : String
  deriving DecidableEq

structure Message where
  role : Role
  content : Option String
  toolCalls : List ReplayedCall := []
  toolCallId : Option String := none
  deriving DecidableEq

/-! ## Request assembly -/

structure FailedStep where
  attempts : ℕ
  error : String

inductive TrajectoryStep where
  | executed (action : PolicyAction) (rawEnvOutput : RawEnvOutput)
  | failed (step : FailedStep)

def TrajectoryStep.isExecuted : TrajectoryStep → Bool
  | .executed _ _ => true
  | .failed _ => false

abbrev Trajectory := List TrajectoryStep

/-- `text.rstrip("\n")`. -/
def rstripNewlines (text : String) : String := String.ofList (text.toList.rdropWhile (· = '\n'))

/-- `f"{n:04d}"`. -/
def fourDigits (n : ℕ) : List Char :=
  List.replicate (4 - (Json.renderNat n).length) '0' ++ Json.renderNat n

/-- `f"call_{step_index:04d}"`. -/
def callId (stepIndex : ℕ) : String := "call_" ++ String.ofList (fourDigits stepIndex)

structure RequestBuilder where
  tokenCounter : Option HfTokenCounter := none

namespace RequestBuilder

def RESULT_CHAR_LIMIT : ℕ := 6000 * 4

def RESULT_TOKEN_LIMIT : ℕ := 6000

def ARG_TOKEN_LIMIT : ℕ := 1000

def ARG_CHAR_LIMIT : ℕ := ARG_TOKEN_LIMIT * 4

variable (builder : RequestBuilder)

/-- `_bounded`. -/
def bounded (text : String) (tokenLimit charLimit : ℕ) : Except String String :=
  match builder.tokenCounter with
  | some counter => counter.truncate text tokenLimit
  | none =>
    if text.length ≤ charLimit then return text
    else return firstChars text (charLimit - TRUNCATION_MARKER.length) ++ TRUNCATION_MARKER

/-- `_clip`. -/
def clip (text : String) : Except String String :=
  builder.bounded text RESULT_TOKEN_LIMIT RESULT_CHAR_LIMIT

/-- A stream of an observation, under its name. -/
def streamLines (name text : String) : Except String (List String) :=
  if text = "" then return []
  else return [name ++ ":", ← builder.clip (rstripNewlines text)]

def toolResult (raw : RawEnvOutput) : Except String String := do
  let lines := (raw.exitCode.map fun exitCode ↦ "rc=" ++ toString exitCode).toList ++
    (← builder.streamLines "stdout" raw.stdout) ++ (← builder.streamLines "stderr" raw.stderr)
  return if lines = [] then "(no output)" else "\n".intercalate lines

def failedStepResult (step : FailedStep) : Except String String := do
  return "\n".intercalate ["Previous step produced no valid action after " ++ toString step.attempts ++
    " attempt(s).", "Last validation error:", ← builder.clip step.error]

/-- An argument of a replayed call: a string is clipped. -/
def clipArg : String × Json → Except String (String × Json)
  | (key, .str text) => return (key, .str (← builder.bounded text ARG_TOKEN_LIMIT ARG_CHAR_LIMIT))
  | arg => return arg

/-- `_replay_tool_call`. -/
def replayToolCall (action : PolicyAction) (stepIndex : ℕ) : Except String ReplayedCall := do
  let args ← action.args.modelDump.mapM builder.clipArg
  return { id := callId stepIndex, name := action.name.text, arguments := (Json.obj args).dumps }

/-- The group of a step. -/
def stepGroup (stepIndex : ℕ) : TrajectoryStep → Except String (List Message)
  | .failed step => do
    return [{ role := .user, content := some (← builder.failedStepResult step) }]
  | .executed action raw => do
    let toolCall ← builder.replayToolCall action stepIndex
    return [
      { role := .assistant, content := none, toolCalls := [toolCall] },
      { role := .tool, content := some (← builder.toolResult raw), toolCallId := some toolCall.id }]

/-- The loop of `assemble`: the groups, and the index of the newest executed step. -/
def assembleSteps : ℕ → Trajectory → List (List Message) → ℤ → Except String (List (List Message) × ℤ)
  | _, [], stepGroups, newestRealStep => return (stepGroups, newestRealStep)
  | stepIndex, step :: rest, stepGroups, newestRealStep => do
    let group ← builder.stepGroup stepIndex step
    assembleSteps (stepIndex + 1) rest (stepGroups ++ [group])
      (if step.isExecuted then stepGroups.length else newestRealStep)

/-- The head of a request. -/
def head (instruction : String) (workingDir : Option String) : List Message := [
  { role := .system, content := some buildSystemPrompt },
  { role := .user, content := some (initialUserPrompt instruction workingDir) }]

/-- `assemble`: the head, one group for each step, and the retention floor. -/
def assemble (instruction : String) (workingDir : Option String) (trajectory : Trajectory) :
    Except String (List Message × List (List Message) × ℤ) := do
  let (stepGroups, newestRealStep) ← builder.assembleSteps 1 trajectory [] (-1)
  let floor : ℤ := if 0 ≤ newestRealStep then newestRealStep else stepGroups.length - 1
  return (head instruction workingDir, stepGroups, floor)

end RequestBuilder

/-! ## The context window -/

structure ContextWindow where
  maxContextLength : ℤ
  maxCompletionTokens : ℤ
  tools : List Json
  calibration : ℚ := 1
  tokenCounter : Option HfTokenCounter := none

namespace ContextWindow

def CHARS_PER_TOKEN : ℕ := 4

def TEMPLATE_PER_MESSAGE_TOKENS : ℕ := 16

def TEMPLATE_FIXED_TOKENS : ℕ := 128

variable (window : ContextWindow)

/-- The texts of a message that are counted. -/
def texts (message : Message) : List String :=
  message.content.getD "" :: message.toolCalls.flatMap fun call ↦ [call.arguments, call.name]

def estimateMessageTokens (message : Message) : ℕ :=
  match window.tokenCounter with
  | some counter => ((texts message).map counter.count).sum + TEMPLATE_PER_MESSAGE_TOKENS
  | none => ((texts message).map String.length).sum / CHARS_PER_TOKEN + 8

/-- The tokens of the tools. -/
def toolTokens : ℕ :=
  let toolsJson := String.ofList (Json.arr window.tools).renderSpaced
  match window.tokenCounter with
  | some counter => counter.count toolsJson + TEMPLATE_FIXED_TOKENS
  | none => toolsJson.length / CHARS_PER_TOKEN

def estimateRequestTokens (messages : List Message) : ℕ :=
  (messages.map window.estimateMessageTokens).sum + window.toolTokens

/-- The tokens of a group. -/
def groupTokens (group : List Message) : ℕ := (group.map window.estimateMessageTokens).sum

/-- The tokens that leave room for the reply. -/
def budget : ℚ :=
  (window.maxContextLength - window.maxCompletionTokens) / max window.calibration 1

/-- The loop of `fit`, over the counts of the groups from `start` on. -/
def dropGroups (limit : ℚ) (floor : ℤ) : ℤ → ℕ → List ℕ → Except String ℕ
  | stepTokens, start, [] =>
    if limit < stepTokens ∧ start < floor then throw "IndexError: list index out of range"
    else return start
  | stepTokens, start, tokens :: rest =>
    if limit < stepTokens ∧ start < floor then
      dropGroups limit floor (stepTokens - tokens) (start + 1) rest
    else return start

/-- The note in the place of dropped steps. -/
def omittedNote (dropped : ℕ) : Message :=
  { role := .user, content := some (contextOmittedNote dropped) }

/-- `fit`: the head and the newest groups that fit, and how many were dropped. -/
def fit (head : List Message) (stepGroups : List (List Message)) (floor : ℤ)
    (turnMessages : List Message := []) : Except String (List Message × ℕ) := do
  let headTokens := window.estimateRequestTokens head +
    (turnMessages.map window.estimateMessageTokens).sum
  let groupTokens := stepGroups.map window.groupTokens
  let start ← dropGroups (window.budget - headTokens) floor groupTokens.sum 0 groupTokens
  let kept := (stepGroups.drop start).flatten
  if start = 0 then return (head ++ kept, 0)
  return (head ++ omittedNote start :: kept, start)

end ContextWindow

end HarnessTraining
