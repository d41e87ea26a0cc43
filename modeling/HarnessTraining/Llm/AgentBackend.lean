import HarnessTraining.Env.Determinism
import HarnessTraining.Library.StateExcept
import HarnessTraining.Library.Transitions
import HarnessTraining.Replay.StepRow

/-!
# Turns of a command-line agent

`src/llm/agent_backend.py`: a turn runs an agent as a process and reads the events that it prints.  Every
turn of Codex has a home of its own; the sessions in it are archived when the turn is over, however it
ends, and those of a thread are restored when it is resumed.

* `codexEvent`, `claudeEvent` — what an event tells.
* `runAgentSubprocess`, `agent_turn` — when a turn is one, and of which thread.
* `runCodexTurn` — the home, the turn and the archive.
-/

set_option autoImplicit false

namespace HarnessTraining

namespace Agents

open Python StateExcept

/-! ## Texts -/

def isBlank (u : Unicode) : CodePoint → Bool
  | .scalar c => u.isSpace c
  | .surrogate _ => false

/-- `text.strip()`. -/
def strip (u : Unicode) (text : Text) : Text := (text.dropWhile (isBlank u)).rdropWhile (isBlank u)

/-- `" ".join(text.split())`. -/
def joinWords (u : Unicode) (text : Text) : Text :=
  List.intercalate (ofString " ") ((text.splitOnP (isBlank u)).filter (· ≠ []))

def decimal (n : ℕ) : Text := (Json.renderNat n).map .scalar

/-- `f"{n:02d}"`. -/
def padded (n : ℕ) : Text := if n < 10 then ofString "0" ++ decimal n else decimal n

/-- `_as_str`, of `payload.get(key)`. -/
def asStr (payload : List (Text × PyJson)) (key : String) : Option Text :=
  match PyJson.get? (ofString key) payload with
  | some (.str text) => some text
  | _ => none

/-- `payload.get(key) == text`. -/
def isStr (payload : List (Text × PyJson)) (key text : String) : Bool :=
  asStr payload key = some (ofString text)

/-- `_parse_json_line`; an integer literal that is too long raises a `ValueError`. -/
def parseJsonLine (u : Unicode) (rawLine : Text) : Option (Option (List (Text × PyJson))) :=
  let line := strip u rawLine
  if line = [] then some none
  else
    match PyJson.loads line with
    | .ok (.obj payload) => some (some payload)
    | .ok _ | .error .malformed => some none
    | .error .digitLimit => none

/-- `_error_message`. -/
def errorMessage (payload : List (Text × PyJson)) : Option Text :=
  match PyJson.get? (ofString "error") payload with
  | some (.obj error) => (asStr error "message").or (asStr payload "message")
  | _ => asStr payload "message"

/-! ## Events -/

inductive Category where
  | read | cmd | edit | tool | msg
  deriving DecidableEq

def Category.name : Category → String
  | .read => "read"
  | .cmd => "cmd"
  | .edit => "edit"
  | .tool => "tool"
  | .msg => "msg"

/-- `_Event`. -/
structure AgentEvent where
  category : Option Category := none
  threadId : Option Text := none
  failed : Bool := false
  failureMessage : Option Text := none
  deriving DecidableEq

/-- `CodexAgentBackend._parse_event`. -/
def codexEvent (payload : List (Text × PyJson)) : AgentEvent :=
  if isStr payload "type" "thread.started" then { threadId := asStr payload "thread_id" }
  else if isStr payload "type" "turn.completed" then {}
  else if isStr payload "type" "turn.failed" then
    { failed := true, failureMessage := errorMessage payload }
  else
    match PyJson.get? (ofString "item") payload with
    | some (.obj item) =>
      if isStr item "type" "command_execution" ∧ isStr payload "type" "item.started" then
        { category := some .cmd }
      else if isStr item "type" "file_change" ∧ isStr payload "type" "item.completed" then
        { category := some .edit }
      else if isStr item "type" "agent_message" ∧ isStr payload "type" "item.completed" then
        { category := some .msg }
      else {}
    | _ => {}

/-- The category of a tool. -/
def toolCategory (name : Text) : Category :=
  if name = ofString "Bash" then .cmd
  else if name = ofString "Edit" ∨ name = ofString "Write" ∨ name = ofString "NotebookEdit" then .edit
  else if name = ofString "Read" then .read
  else .tool

/-- The first block of a message that tells something. -/
def blockEvent (u : Unicode) : List PyJson → AgentEvent
  | [] => {}
  | .obj block :: blocks =>
    if isStr block "type" "text" then
      match asStr block "text" with
      | some text => if strip u text ≠ [] then { category := some .msg } else blockEvent u blocks
      | none => blockEvent u blocks
    else if isStr block "type" "tool_use" then
      { category := some (toolCategory ((asStr block "name").getD [])) }
    else blockEvent u blocks
  | _ :: blocks => blockEvent u blocks

/-- `ClaudeAgentBackend._parse_event`. -/
def claudeEvent (u : Unicode) (payload : List (Text × PyJson)) : AgentEvent :=
  if isStr payload "type" "system" ∧ isStr payload "subtype" "init" then
    { threadId := asStr payload "session_id" }
  else if isStr payload "type" "assistant" then
    match PyJson.get? (ofString "message") payload with
    | some (.obj message) =>
      match PyJson.get? (ofString "content") message with
      | some (.arr blocks) => blockEvent u blocks
      | _ => {}
    | _ => {}
  else if isStr payload "type" "result" then
    if isStr payload "subtype" "success" then { threadId := asStr payload "session_id" }
    else
      { threadId := asStr payload "session_id"
        failed := isStr payload "subtype" "error" ||
          ((PyJson.get? (ofString "is_error") payload).any PyJson.truthy)
        failureMessage := errorMessage payload }
  else {}

/-! ## The meter -/

/-- `_format_elapsed`. -/
def formatElapsed (total : ℕ) : Text :=
  if 3600 ≤ total then
    decimal (total / 3600) ++ ofString "h" ++ padded (total % 3600 / 60) ++ ofString "m"
  else if 60 ≤ total then decimal (total / 60) ++ ofString "m" ++ padded (total % 60) ++ ofString "s"
  else decimal total ++ ofString "s"

/-- `_meter_suffix`. -/
def meterSuffix (counts : Category → ℕ) (elapsed : ℕ) : Text :=
  let counters := ([.read, .cmd, .edit, .tool, .msg] : List Category).filter (counts · ≠ 0)
  if counters = [] then formatElapsed elapsed
  else
    formatElapsed elapsed ++ ofString " · agent: " ++ List.intercalate (ofString " · ")
      (counters.map fun category ↦ ofString category.name ++ ofString " " ++ decimal (counts category))

def METER_EVERY_EVENTS : ℕ := 20

/-! ## The stream -/

/-- What the loop over the lines keeps. -/
structure AgentTurn where
  resolvedId : Option Text
  resultError : Option AgentEvent := none
  events : ℕ := 0
  counts : Category → ℕ := fun _ ↦ 0
  emitted : List Text := []

/-- The seconds since the turn was started, after some events. -/
abbrev Elapsed := ℕ → ℕ

/-- An event is taken in. -/
def AgentTurn.take (turn : AgentTurn) (elapsed : Elapsed) (event : AgentEvent) : AgentTurn :=
  let events := turn.events + 1
  let counts : Category → ℕ := fun category ↦
    turn.counts category + if event.category = some category then 1 else 0
  { resolvedId := event.threadId.or turn.resolvedId
    resultError := if event.failed then some event else turn.resultError
    events := events
    counts := counts
    emitted :=
      if events % METER_EVERY_EVENTS = 0 then
        turn.emitted ++ [ofString "running · " ++ meterSuffix counts (elapsed events)]
      else turn.emitted }

section Stream

variable (u : Unicode) (parse : List (Text × PyJson) → AgentEvent) (elapsed : Elapsed)

/-- A line is read; the turn so far is left if it raises. -/
def AgentTurn.readLine (turn : AgentTurn) (rawLine : Text) : Except AgentTurn AgentTurn :=
  match parseJsonLine u rawLine with
  | none => .error turn
  | some none =>
    let stripped := rawLine.rdropWhile (· = .scalar '\n')
    .ok (if stripped = [] then turn else { turn with emitted := turn.emitted ++ [stripped] })
  | some (some payload) => .ok (turn.take elapsed (parse payload))

/-- The process of a turn. -/
structure AgentProcess where
  lines : List Text
  returncode : ℤ
  /-- The timer went off. -/
  timedOut : Bool
  stderr : Text
  elapsed : Elapsed

/-- `_failure_detail`. -/
def failureDetail (resultError : Option AgentEvent) (stderr : Text) : Text :=
  let result : List Text :=
    match resultError with
    | none => []
    | some event =>
      match event.failureMessage with
      | some message =>
        if strip u message ≠ [] then [ofString "result event error: " ++ joinWords u message]
        else [ofString "result event error"]
      | none => [ofString "result event error"]
  let parts := result ++
    if strip u stderr ≠ [] then [ofString "stderr:\n" ++ stderr.drop (stderr.length - 1000)] else []
  if parts = [] then ofString "no diagnostic output" else List.intercalate (ofString " | ") parts

inductive TurnError where
  /-- A `RuntimeError`. -/
  | runtime (text : Text)
  /-- A `ValueError` of `json.loads`. -/
  | digitLimit
  /-- An `OSError` of what starts the process. -/
  | spawn (text : Text)
  deriving DecidableEq

/-- `TurnResult`. -/
structure TurnResult where
  threadId : Text
  progressSummary : Text
  deriving DecidableEq

/-- A backend, as `_run_agent_subprocess` is told of it. -/
structure AgentNames where
  backendName : String
  missingIdLabel : String
  /-- `f"{turn_timeout_sec:.0f}"`. -/
  timeout : String

/-- An integer as `f"{n}"`. -/
def signed (z : ℤ) : Text := (Json.renderInt z).map .scalar

/-- How a turn whose lines were read ends. -/
def AgentTurn.finish (turn : AgentTurn) (names : AgentNames) (process : AgentProcess) :
    Except TurnError TurnResult :=
  if process.timedOut then
    .error (.runtime (ofString ("agent turn timed out after " ++ names.timeout ++ "s")))
  else if process.returncode ≠ 0 ∨ turn.resultError ≠ none then
    .error (.runtime (ofString (names.backendName ++ " turn failed (rc=") ++ signed process.returncode ++
      ofString "): " ++ failureDetail u turn.resultError process.stderr))
  else
    match turn.resolvedId with
    | none =>
      .error (.runtime (ofString (names.backendName ++ " turn did not report a " ++
        names.missingIdLabel ++ ":\n") ++ process.stderr.drop (process.stderr.length - 1000)))
    | some threadId =>
      .ok ⟨threadId, meterSuffix turn.counts (process.elapsed (turn.events + 1))⟩

/-- `_run_agent_subprocess`: what was emitted, and how the turn ended. -/
def runAgentSubprocess (names : AgentNames) (threadId : Option Text) (process : AgentProcess) :
    List Text × Except TurnError TurnResult :=
  match process.lines.foldlM (AgentTurn.readLine u parse process.elapsed) { resolvedId := threadId } with
  | .error turn => (turn.emitted, .error .digitLimit)
  | .ok turn => (turn.emitted, turn.finish u names process)

/-! ## When a turn is one -/

/-- The events of some lines. -/
def streamEvents (lines : List Text) : List AgentEvent :=
  lines.filterMap fun line ↦ (parseJsonLine u line).join.map parse

/-- What the loop keeps of some events. -/
structure Took (turn : AgentTurn) (events : List AgentEvent) (turn' : AgentTurn) : Prop where
  resolvedId : turn'.resolvedId = (events.filterMap AgentEvent.threadId).getLast?.or turn.resolvedId
  resultError : turn'.resultError = (events.filter AgentEvent.failed).getLast?.or turn.resultError
  count : turn'.events = turn.events + events.length
  counts : ∀ category,
    turn'.counts category = turn.counts category + events.countP (·.category = some category)

variable {u parse elapsed}

theorem Took.append {turn turn' turn'' : AgentTurn} {events events' : List AgentEvent}
    (h : Took turn events turn') (h' : Took turn' events' turn'') :
    Took turn (events ++ events') turn'' where
  resolvedId := by
    rw [h'.resolvedId, h.resolvedId, List.filterMap_append, List.getLast?_append, Option.or_assoc]
  resultError := by
    rw [h'.resultError, h.resultError, List.filter_append, List.getLast?_append, Option.or_assoc]
  count := by rw [h'.count, h.count, List.length_append, Nat.add_assoc]
  counts category := by rw [h'.counts, h.counts, List.countP_append, Nat.add_assoc]

theorem took_nothing (turn : AgentTurn) (emitted : List Text) :
    Took turn [] { turn with emitted := emitted } :=
  ⟨rfl, rfl, rfl, fun _ ↦ rfl⟩

theorem took_take (turn : AgentTurn) (event : AgentEvent) :
    Took turn [event] (turn.take elapsed event) where
  resolvedId := by
    rw [AgentTurn.take, List.filterMap_cons]
    cases event.threadId <;> rfl
  resultError := by
    rw [AgentTurn.take, List.filter_cons]
    cases event.failed <;> rfl
  count := rfl
  counts category := by
    rw [AgentTurn.take, List.countP_singleton]
    simp only [decide_eq_true_eq]

variable (u parse elapsed) in
/-- A line gives its event, or raises. -/
theorem readLine_spec (turn : AgentTurn) (line : Text) :
    match turn.readLine u parse elapsed line with
    | .ok turn' => parseJsonLine u line ≠ none ∧ Took turn (streamEvents u parse [line]) turn'
    | .error _ => parseJsonLine u line = none := by
  rw [AgentTurn.readLine, streamEvents, List.filterMap_cons]
  cases parseJsonLine u line with
  | none => rfl
  | some payload =>
    cases payload with
    | none =>
      refine ⟨nofun, ?_⟩
      by_cases hempty : line.rdropWhile (· = .scalar '\n') = []
      · rw [if_pos hempty]
        exact took_nothing turn turn.emitted
      · rw [if_neg hempty]
        exact took_nothing turn _
    | some payload => exact ⟨nofun, took_take turn (parse payload)⟩

variable (u parse elapsed) in
/-- **What is left of the lines**: all events, unless a line raises. -/
theorem readLines_spec (lines : List Text) (turn : AgentTurn) :
    match lines.foldlM (AgentTurn.readLine u parse elapsed) turn with
    | .ok turn' => (∀ line ∈ lines, parseJsonLine u line ≠ none) ∧
        Took turn (streamEvents u parse lines) turn'
    | .error _ => ∃ line ∈ lines, parseJsonLine u line = none := by
  induction lines generalizing turn with
  | nil => exact ⟨nofun, took_nothing turn turn.emitted⟩
  | cons line lines ih =>
    rw [List.foldlM_cons]
    have hline := readLine_spec u parse elapsed turn line
    cases hread : turn.readLine u parse elapsed line with
    | error turn' =>
      rw [hread] at hline
      exact ⟨line, List.mem_cons_self, hline⟩
    | ok turn' =>
      rw [hread] at hline
      obtain ⟨hsome, htook⟩ := hline
      have hrest := ih turn'
      change match lines.foldlM (AgentTurn.readLine u parse elapsed) turn' with
        | .ok turn' => _
        | .error _ => _
      cases hlines : lines.foldlM (AgentTurn.readLine u parse elapsed) turn' with
      | error turn'' =>
        rw [hlines] at hrest
        exact hrest.imp fun _ h ↦ h.imp_left (List.mem_cons_of_mem _)
      | ok turn'' =>
        rw [hlines] at hrest
        have hevents : streamEvents u parse (line :: lines) =
            streamEvents u parse [line] ++ streamEvents u parse lines :=
          List.filterMap_append (l := [line])
        rw [hevents]
        exact ⟨List.forall_mem_cons.mpr ⟨hsome, hrest.1⟩, htook.append hrest.2⟩

/-- What a turn that returns is. -/
structure Completed (u : Unicode) (parse : List (Text × PyJson) → AgentEvent) (threadId : Option Text)
    (process : AgentProcess) (result : TurnResult) : Prop where
  lines : ∀ line ∈ process.lines, parseJsonLine u line ≠ none
  inTime : process.timedOut = false
  returncode : process.returncode = 0
  /-- No event failed, also before others that did not. -/
  events : ∀ event ∈ streamEvents u parse process.lines, event.failed = false
  /-- The thread is the one that was named last, or else the one that is resumed. -/
  thread : ((streamEvents u parse process.lines).filterMap AgentEvent.threadId).getLast?.or threadId =
    some result.threadId
  summary : result.progressSummary =
    meterSuffix (fun category ↦ (streamEvents u parse process.lines).countP (·.category = some category))
      (process.elapsed ((streamEvents u parse process.lines).length + 1))

theorem finish_eq_ok {turn : AgentTurn} {names : AgentNames} {process : AgentProcess}
    {result : TurnResult} : turn.finish u names process = .ok result ↔
      process.timedOut = false ∧ process.returncode = 0 ∧ turn.resultError = none ∧
        turn.resolvedId = some result.threadId ∧
        result.progressSummary = meterSuffix turn.counts (process.elapsed (turn.events + 1)) := by
  rw [AgentTurn.finish]
  cases process.timedOut with
  | true => simp
  | false =>
    rw [if_neg (by decide)]
    split
    · next hfailed =>
      refine ⟨nofun, fun h ↦ ?_⟩
      exact absurd hfailed (by simp [h.2.1, h.2.2.1])
    · next hfine =>
      rw [not_or, not_not, not_not] at hfine
      cases turn.resolvedId with
      | none => simp
      | some threadId =>
        obtain ⟨threadId', progressSummary⟩ := result
        simp only [hfine, Except.ok.injEq, TurnResult.mk.injEq, true_and, Option.some.injEq]
        exact and_congr_right fun _ ↦ eq_comm

end Stream

/-! ## Sessions of Codex -/

/-- A path below a directory, by its parts. -/
abbrev SessionPath := List Text

/-- The files of a directory of sessions. -/
abbrev Sessions := SessionPath → Option Bytes

/-- The pattern `*.jsonl`. -/
def isRollout (path : SessionPath) : Bool := (ofString ".jsonl").isSuffixOf (path.getLastD [])

/-- An identifier that stands for itself in a pattern. -/
def isPlain (threadId : Text) : Bool :=
  threadId ≠ [] ∧ ∀ c ∈ threadId, c ∉ ['*', '?', '[', '/'].map CodePoint.scalar

/-- The pattern `*{thread_id}*.jsonl`; `glob` decides where the identifier is a pattern itself. -/
def isOfThread (glob : Text → SessionPath → Bool) (threadId : Text) (path : SessionPath) : Bool :=
  if isPlain threadId then
    isRollout path ∧ threadId <:+: (path.getLastD []).take ((path.getLastD []).length - 6)
  else glob threadId path

/-- `_copy_rollouts`: what is in the target afterwards. -/
def copyRollouts (source : Sessions) (pattern : SessionPath → Bool) (target : Sessions) : Sessions :=
  fun path ↦ if pattern path then (source path).or (target path) else target path

/-- A turn of Codex, as it was run; `M` is all that an agent may change. -/
structure CodexTurn (M : Type) where
  prompt : Text
  machine : M
  /-- The thread that it resumes. -/
  threadId : Option Text
  /-- The sessions in its home when it starts. -/
  home : Sessions
  /-- Those in it when the turn is over. -/
  left : Sessions
  outcome : Except TurnError TurnResult

/-- What turns change. -/
structure AgentHost (M : Type) where
  traceDir : Sessions
  machine : M
  emitted : List Text := []
  turns : List (CodexTurn M) := []

/-- An agent: what a command with a home does, unless it cannot be started. -/
abbrev AgentCli (M : Type) := List Text → Sessions → M → Except Text AgentProcess × Sessions × M

structure CodexConfig where
  model : Option Text
  effort : Option Text
  timeout : String

/-- The command of a turn. -/
def codexCommand (config : CodexConfig) (repoRoot prompt : Text) (threadId : Option Text) : List Text :=
  [ofString "codex", ofString "exec"] ++
    (match config.effort with
      | some effort =>
        [ofString "-c", ofString "model_reasoning_effort=\"" ++ effort ++ ofString "\""]
      | none => []) ++
    [ofString "-c", ofString "project_doc_max_bytes=0"] ++
    (match config.model with
      | some model => [ofString "-m", model]
      | none => []) ++
    [ofString "--json", ofString "-s", ofString "workspace-write", ofString "-C", repoRoot,
      ofString "--skip-git-repo-check"] ++
    (match threadId with
      | some threadId => [ofString "resume", threadId]
      | none => []) ++
    [prompt]

section Codex

variable {M : Type} (u : Unicode) (glob : Text → SessionPath → Bool) (config : CodexConfig)
  (cli : AgentCli M)

/-- The sessions of `_provision_home`. -/
def provisionHome (traceDir : Sessions) : Option Text → Sessions
  | none => fun _ ↦ none
  | some threadId => copyRollouts traceDir (isOfThread glob threadId) fun _ ↦ none

/-- What a process that may not have been started makes of a turn. -/
def runSpawned (names : AgentNames) (parse : List (Text × PyJson) → AgentEvent) (threadId : Option Text) :
    Except Text AgentProcess → List Text × Except TurnError TurnResult
  | .error text => ([], .error (.spawn text))
  | .ok process => runAgentSubprocess u parse names threadId process

/-- `CodexAgentBackend.run_turn`. -/
def runCodexTurn (repoRoot prompt : Text) (threadId : Option Text) :
    Prog (AgentHost M) TurnError TurnResult := fun host ↦
  let home := provisionHome glob host.traceDir threadId
  let ended := cli (codexCommand config repoRoot prompt threadId) home host.machine
  let turn := runSpawned u ⟨"codex", "thread id", config.timeout⟩ codexEvent threadId ended.1
  (turn.2,
    { traceDir := copyRollouts ended.2.1 isRollout host.traceDir
      machine := ended.2.2
      emitted := host.emitted ++ turn.1
      turns := host.turns ++ [⟨prompt, host.machine, threadId, home, ended.2.1, turn.2⟩] })

structure ClaudeConfig where
  model : Option Text
  effort : Option Text
  timeout : String

/-- The command of a turn. -/
def claudeCommand (config : ClaudeConfig) (prompt : Text) (threadId : Option Text) : List Text :=
  [ofString "claude", ofString "-p", ofString "--output-format", ofString "stream-json",
    ofString "--verbose", ofString "--permission-mode", ofString "bypassPermissions"] ++
    (match config.model with
      | some model => [ofString "--model", model]
      | none => []) ++
    (match threadId with
      | some threadId => [ofString "--resume", threadId]
      | none => []) ++
    [ofString "--effort", config.effort.getD (ofString "xhigh"), prompt]

/-- `ClaudeAgentBackend.run_turn`; the sessions are the agent's own. -/
def runClaudeTurn (config : ClaudeConfig) (prompt : Text) (threadId : Option Text) :
    Prog (AgentHost M) TurnError TurnResult := fun host ↦
  let ended := cli (claudeCommand config prompt threadId) (fun _ ↦ none) host.machine
  let turn := runSpawned u ⟨"claude", "session id", config.timeout⟩ (claudeEvent u) threadId ended.1
  (turn.2, { host with machine := ended.2.2, emitted := host.emitted ++ turn.1 })

/-! ## The archive -/

/-- What is archived after some turns, however they ended. -/
def archived (initial : Sessions) (turns : List (CodexTurn M)) : Sessions := fun path ↦
  if isRollout path then (turns.reverse.findSome? fun turn ↦ turn.left path).or (initial path)
  else initial path

theorem archived_snoc (initial : Sessions) (turns : List (CodexTurn M)) (turn : CodexTurn M) :
    archived initial (turns ++ [turn]) = copyRollouts turn.left isRollout (archived initial turns) := by
  funext path
  rw [archived, copyRollouts, archived, List.reverse_append, List.reverse_singleton,
    List.singleton_append, List.findSome?_cons]
  split
  · cases turn.left path <;> rfl
  · rfl

/-- **What holds of the turns of a host**, from the archive that it had. -/
structure Archives (initial : Sessions) (host : AgentHost M) : Prop where
  /-- Each session is archived as the last turn that had it left it. -/
  archive : host.traceDir = archived initial host.turns
  /-- A turn starts with what is archived of its thread. -/
  homes : ∀ before after turn, host.turns = before ++ turn :: after →
    turn.home = provisionHome glob (archived initial before) turn.threadId

theorem archives_start (host : AgentHost M) (h : host.turns = []) : Archives glob host.traceDir host where
  archive := by
    funext path
    rw [h, archived]
    split <;> rfl
  homes before after turn hturns := by
    rw [h] at hturns
    exact absurd hturns.symm (by simp)

variable {u glob config cli} {initial : Sessions} {host : AgentHost M}

/-- **Every turn keeps the archive**, also one that fails. -/
theorem Archives.turn (h : Archives glob initial host) (repoRoot prompt : Text) (threadId : Option Text) :
    Archives glob initial (exec (runCodexTurn u glob config cli repoRoot prompt threadId) host).2 where
  archive := by
    change copyRollouts _ isRollout host.traceDir = archived initial (host.turns ++ [_])
    rw [archived_snoc, h.archive]
  homes before after turn hturns := by
    change host.turns ++ [_] = before ++ turn :: after at hturns
    rcases Transitions.split_snoc hturns with ⟨rfl, rfl⟩ | ⟨rest, hbefore⟩
    · rw [← h.archive]
    · exact h.homes before rest turn hbefore

/-- What a turn does to a host. -/
structure Ran (glob : Text → SessionPath → Bool) (prompt : Text) (threadId : Option Text)
    (host host' : AgentHost M) (turn : CodexTurn M) : Prop where
  turns : host'.turns = host.turns ++ [turn]
  prompt : turn.prompt = prompt
  machine : turn.machine = host.machine
  threadId : turn.threadId = threadId
  archives : ∀ initial, Archives glob initial host → Archives glob initial host'

/-- **The specification of a turn.** -/
theorem wp_runCodexTurn {repoRoot prompt : Text} {threadId : Option Text}
    {Q : TurnResult → AgentHost M → Prop} {E : TurnError → AgentHost M → Prop}
    (hok : ∀ turn result host', Ran glob prompt threadId host host' turn → turn.outcome = .ok result →
      Q result host')
    (herror : ∀ turn error host', Ran glob prompt threadId host host' turn →
      turn.outcome = .error error → E error host') :
    wp (runCodexTurn u glob config cli repoRoot prompt threadId) Q E host := by
  have hran (turn : CodexTurn M) (hturns : (exec (runCodexTurn u glob config cli repoRoot prompt threadId)
      host).2.turns = host.turns ++ [turn]) (hprompt : turn.prompt = prompt)
      (hmachine : turn.machine = host.machine) (hthreadId : turn.threadId = threadId) :
      Ran glob prompt threadId host
        (exec (runCodexTurn u glob config cli repoRoot prompt threadId) host).2 turn :=
    ⟨hturns, hprompt, hmachine, hthreadId, fun _ h ↦ h.turn repoRoot prompt threadId⟩
  refine wp_iff.mpr ⟨fun result host' hexec ↦ ?_, fun error host' hexec ↦ ?_⟩
  · obtain ⟨houtcome, rfl⟩ := Prod.mk.inj hexec
    exact hok _ result _ (hran _ rfl rfl rfl rfl) houtcome
  · obtain ⟨houtcome, rfl⟩ := Prod.mk.inj hexec
    exact herror _ error _ (hran _ rfl rfl rfl rfl) houtcome

/-- No session is lost. -/
theorem Archives.kept (h : Archives glob initial host) {path : SessionPath}
    (hpath : initial path ≠ none) : host.traceDir path ≠ none := by
  rw [h.archive, archived]
  split
  · intro hnone
    exact hpath (Option.or_eq_none_iff.mp hnone).2
  · exact hpath

/-- What a turn leaves is archived. -/
theorem Archives.left (h : Archives glob initial host) {turn : CodexTurn M} (hmem : turn ∈ host.turns)
    {path : SessionPath} (hrollout : isRollout path = true) (hleft : turn.left path ≠ none) :
    host.traceDir path ≠ none := by
  rw [h.archive, archived, if_pos hrollout]
  intro hnone
  have hall := List.findSome?_eq_none_iff.mp (Option.or_eq_none_iff.mp hnone).1
  exact hleft (hall turn (List.mem_reverse.mpr hmem))

end Codex

end Agents

end HarnessTraining
