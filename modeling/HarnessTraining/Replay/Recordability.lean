import HarnessTraining.Env.Base

/-!
# Which steps may be recorded

`_skip_recording_reason` of `src/plugins/replay/step_cache.py`.  A command that leaves a process
behind, that `timeout` had to stop, or that ended close to its own deadline is executed but not
recorded.

Whether a command leaves a process behind is read off its words, as `shlex` splits them in POSIX mode
with punctuation characters, and off a regular expression where `shlex` gives up.

* `skipRecordingReason_eq_none` — a step is recordable when none of the three holds.
-/

set_option autoImplicit false

namespace HarnessTraining

open Regex

/-! ## `shlex` -/

namespace Shlex

/-- Where the lexer is: between words, in one, or in something with rules of its own.  An escape
returns to the quotes it stands in, or to the word. -/
inductive Mode where
  | space | word | punctuation | comment
  | quoted (quote : Char)
  | escaped (within : Option Char)
  deriving DecidableEq

structure State where
  mode : Mode := .space
  token : List Char := []
  /-- An empty token between quotes is a token. -/
  quoted : Bool := false
  tokens : List String := []

def isWhitespace (c : Char) : Bool := c ∈ [' ', '\t', '\r', '\n']

/-- `punctuation_chars=True`. -/
def isPunctuation (c : Char) : Bool := c ∈ ['(', ')', ';', '<', '>', '|', '&']

def isQuote (c : Char) : Bool := c ∈ ['\'', '"']

/-- End the current token. -/
def State.emit (state : State) : State :=
  if state.token = [] ∧ state.quoted = false then { state with quoted := false }
  else { state with
    token := [], quoted := false, tokens := state.tokens ++ [String.ofList state.token] }

def State.add (state : State) (chars : List Char) : State :=
  { state with token := state.token ++ chars }

/-- A character between words. -/
def State.start (state : State) (c : Char) : State :=
  if isWhitespace c then { state with mode := .space }
  else if c = '#' then { state with mode := .comment }
  else if c = '\\' then { state with mode := .escaped none }
  else if isPunctuation c then { state.add [c] with mode := .punctuation }
  else if isQuote c then { state with mode := .quoted c }
  else { state.add [c] with mode := .word }

def State.step (state : State) (c : Char) : State :=
  match state.mode with
  | .space => state.start c
  | .comment => if c = '\n' then { state with mode := .space } else state
  | .quoted quote =>
    let state := { state with quoted := true }
    if c = quote then { state with mode := .word }
    else if c = '\\' ∧ quote = '"' then { state with mode := .escaped (some quote) }
    else state.add [c]
  | .escaped none => { state.add [c] with mode := .word }
  | .escaped (some quote) =>
    -- within quotes, only the quote and the escape character can be escaped
    { state.add (if c = '\\' ∨ c = quote then [c] else ['\\', c]) with mode := .quoted quote }
  | .word =>
    if isWhitespace c ∨ c = '#' ∨ isPunctuation c then state.emit.start c
    else if isQuote c then { state with mode := .quoted c }
    else if c = '\\' then { state with mode := .escaped none }
    else state.add [c]
  | .punctuation => if isPunctuation c then state.add [c] else state.emit.start c

/-- `list(shlex)`; `none` is a `ValueError`: an open quote, or nothing to escape. -/
def split (text : List Char) : Option (List String) :=
  let state := text.foldl State.step {}
  match state.mode with
  | .quoted _ | .escaped _ => none
  | _ => some state.emit.tokens

end Shlex

/-! ## Processes left behind -/

/-- `str.splitlines`, with the line read so far. -/
def textLines : List Char → List Char → List (List Char)
  | [], [] => []
  | [], current => [current]
  | '\r' :: '\n' :: rest, current => current :: textLines rest []
  | c :: rest, current =>
    if c ∈ ['\n', '\r', '\x0b', '\x0c', '\x1c', '\x1d', '\x1e', '\u0085', '\u2028', '\u2029'] then
      current :: textLines rest []
    else textLines rest (current ++ [c])

/-- The delimiters after `<<` among the words of a line, each with whether tabs are stripped. -/
def delimitersOf : List String → List (List Char × Bool)
  | word :: delimiter :: rest =>
    if word = "<<" then
      match delimiter.toList with
      | [] | ['-'] => delimitersOf rest
      | '-' :: text => (text, true) :: delimitersOf rest
      | text => (text, false) :: delimitersOf rest
    else delimitersOf (delimiter :: rest)
  | _ => []

/-- `_heredoc_delimiters`. -/
def heredocDelimiters (line : List Char) : List (List Char × Bool) :=
  match Shlex.split line with
  | none => []
  | some words => delimitersOf words

/-- The lines outside heredoc bodies, the delimiters in `pending` being still open. -/
def outsideHeredocs : List (List Char × Bool) → List (List Char) → List (List Char)
  | _, [] => []
  | [], line :: lines => line :: outsideHeredocs (heredocDelimiters line) lines
  | (delimiter, stripTabs) :: pending, line :: lines =>
    if (if stripTabs then line.dropWhile (· = '\t') else line) = delimiter then
      outsideHeredocs pending lines
    else outsideHeredocs ((delimiter, stripTabs) :: pending) lines

/-- `_strip_heredoc_bodies`. -/
def stripHeredocBodies (command : List Char) : List Char :=
  (['\n'] : List Char).intercalate (outsideHeredocs [] (textLines command []))

namespace Unicode

variable (u : Unicode)

/-- White space, or the end of the text, also before a last line break. -/
def spaceOrEnd : Regex :=
  let textEnd : Regex := .ahead false (.char fun _ ↦ true)
  oneOf [u.space, textEnd, .ahead true (cat [lit "\n", textEnd])]

/-- `_BACKGROUND_PROCESS_RE`. -/
def backgroundProcessRe : Regex := oneOf [
  cat [.behind false [fun c ↦ c ∈ ['&', '>']], lit "&", u.spaceOrEnd],
  cat [oneOf [.textStart, .char fun c ↦ u.isSpace c || decide (c ∈ [';', '(', '{'])],
    lit "nohup", u.spaceOrEnd]]

/-- `_acquires_live_process_state`. -/
def acquiresLiveProcessState (action : RunAction) : Bool :=
  let command := stripHeredocBodies action.command.toList
  match Shlex.split command with
  | none => u.backgroundProcessRe.search command
  | some tokens => tokens.contains "&" || tokens.contains "nohup"

end Unicode

/-! ## Recording -/

inductive SkipReason where
  | backgroundProcess | commandTimeout | nearDeadline
  deriving DecidableEq, Repr

/-- Close to the deadline of the action itself, by a fraction and by a slack. -/
def nearDeadline (action : RunAction) (elapsedSec : ℚ) : Bool :=
  action.timeoutSec.any fun timeoutSec ↦
    decide (timeoutSec.toRat * (4 / 5) < elapsedSec ∧ timeoutSec.toRat - 10 < elapsedSec)

/-- `_skip_recording_reason`. -/
def skipRecordingReason (u : Unicode) (action : RunAction) (result : StepResult) (elapsedSec : ℚ) :
    Option SkipReason :=
  if u.acquiresLiveProcessState action then some .backgroundProcess
  else if result.rawEnvOutput.exitCode = some COMMAND_TIMEOUT_EXIT_CODE then some .commandTimeout
  else if nearDeadline action elapsedSec then some .nearDeadline
  else none

/-- A step is recordable when it left no process behind, was not stopped, and kept its distance from
the deadline. -/
theorem skipRecordingReason_eq_none {u : Unicode} {action : RunAction} {result : StepResult}
    {elapsedSec : ℚ} : skipRecordingReason u action result elapsedSec = none ↔
      u.acquiresLiveProcessState action = false ∧
      result.rawEnvOutput.exitCode ≠ some COMMAND_TIMEOUT_EXIT_CODE ∧
      nearDeadline action elapsedSec = false := by
  rw [skipRecordingReason]
  split
  · next h => simp [h]
  · next h =>
    split
    · next h' => simp [h']
    · next h' =>
      split
      · next h'' => simp [h'']
      · next h'' => simp [h, h', h'']

example : Unicode.ascii.acquiresLiveProcessState { command := "sleep 9 & wait" } = true := by
  decide +kernel

end HarnessTraining
