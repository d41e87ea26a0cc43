import HarnessTraining.Llm.AgentBackend

/-!
# The agentic estimator

`src/trainer/estimator.py`: an agent proposes a candidate, and diagnoses a concluded run by rewriting the
learning memo.  The store is copied for it into a worktree; what it drafts there is published if it is
acceptable, or else sent back to the same thread, once.

* `diagnose`, `propose` — the calls of the trainer.
* `Remembers` — the invariant of the calls: of the memo, of the turns and of their sessions.
* `diagnosis` — what a diagnosis does, after any calls.
-/

set_option autoImplicit false

namespace HarnessTraining

namespace Agents

open Python StateExcept

/-! ## The memo -/

/-- A character that ends a line of `text.splitlines()`. -/
def isLineBreak (c : CodePoint) : Bool :=
  c ∈ ['\n', '\r', '\x0b', '\x0c', '\x1c', '\x1d', '\x1e', '\u0085', '\u2028', '\u2029'].map CodePoint.scalar

/-- `text.splitlines()`, after the start of a line. -/
def splitLinesFrom (start : Text) : Text → List Text
  | [] => if start = [] then [] else [start]
  | .scalar '\r' :: .scalar '\n' :: rest => start :: splitLinesFrom [] rest
  | c :: rest => if isLineBreak c then start :: splitLinesFrom [] rest else splitLinesFrom (start ++ [c]) rest

def splitLines (text : Text) : List Text := splitLinesFrom [] text

def LEARNING_MEMO_MAX_LINES : ℕ := 150

def MAX_DIAGNOSIS_ATTEMPTS : ℕ := 2

/-- The file of a draft. -/
inductive Draft where
  | missing
  | text (text : Text)
  /-- `read_text` raises. -/
  | unreadable (error : Text)

/-- `_diagnosis_rejection`. -/
def diagnosisRejection (u : Unicode) (draftPath : Text) : Draft → Except Text (Option Text)
  | .missing => .ok (some (ofString "write the full rewritten learning memo to " ++ draftPath))
  | .unreadable error => .error error
  | .text text =>
    if strip u text = [] then .ok (some (ofString "learning draft is empty"))
    else if LEARNING_MEMO_MAX_LINES < (splitLines text).length then
      .ok (some (ofString "learning draft is " ++ decimal (splitLines text).length ++
        ofString " lines, over the " ++ decimal LEARNING_MEMO_MAX_LINES ++ ofString "-line limit"))
    else .ok none

/-- A memo that may be published. -/
def Acceptable (u : Unicode) (memo : Text) : Prop :=
  strip u memo ≠ [] ∧ (splitLines memo).length ≤ LEARNING_MEMO_MAX_LINES

theorem diagnosisRejection_eq_none {u : Unicode} {draftPath : Text} {draft : Draft} :
    diagnosisRejection u draftPath draft = .ok none ↔ ∃ memo, draft = .text memo ∧ Acceptable u memo := by
  cases draft with
  | missing => exact ⟨nofun, nofun⟩
  | unreadable error => exact ⟨nofun, nofun⟩
  | text text =>
    rw [diagnosisRejection]
    by_cases hempty : strip u text = []
    · rw [if_pos hempty]
      refine ⟨nofun, ?_⟩
      rintro ⟨memo, heq, haccepted⟩
      cases heq
      exact absurd hempty haccepted.1
    · rw [if_neg hempty]
      by_cases hlong : LEARNING_MEMO_MAX_LINES < (splitLines text).length
      · rw [if_pos hlong]
        refine ⟨nofun, ?_⟩
        rintro ⟨memo, heq, haccepted⟩
        cases heq
        exact absurd hlong (Nat.not_lt.mpr haccepted.2)
      · rw [if_neg hlong]
        exact ⟨fun _ ↦ ⟨text, rfl, hempty, Nat.not_lt.mp hlong⟩, fun _ ↦ rfl⟩

/-! ## The estimator -/

/-- The files of a store that an agent reads. -/
structure Reads where
  learning : Option Text
  runsIndex : Option Text
  experiment : Text → Option Text

/-- What an agent finds below the directory that it is confined to. -/
structure Worktree extends Reads where
  draft : Draft

/-- `_stage_reads`; the files that the store does not have stay as they are. -/
def stageReads (store : Reads) (experimentId : Option Text) (worktree : Worktree) : Worktree :=
  { worktree with
    learning := store.learning.or worktree.learning
    runsIndex := store.runsIndex.or worktree.runsIndex
    experiment := fun other ↦
      if some other = experimentId then (store.experiment other).or (worktree.experiment other)
      else worktree.experiment other }

structure Target where
  surface : Text
  patchPaths : List Text

/-- The store and the host of a training; `W` is what else an agent may change. -/
structure Training (W : Type) where
  store : Reads
  host : AgentHost (Worktree × W)

inductive EstimatorError where
  | turn (error : TurnError)
  /-- An exception of `read_text`. -/
  | reading (error : Text)
  | rejected (text : Text)

/-- `"\n".join(lines)`. -/
def joinTexts (lines : List Text) : Text := List.intercalate (ofString "\n") lines

section Estimator

variable {W : Type} (u : Unicode)
  (runTurn : Text → Text → Option Text → Prog (AgentHost (Worktree × W)) TurnError TurnResult)
  (target : Target) (repoRoot : Text)

def programPath : Text := repoRoot ++ ofString "/program.md"

/-- The directory of the copies. -/
def stagedRoot : Text := repoRoot ++ ofString "/experiments"

def draftPath : Text := stagedRoot repoRoot ++ ofString "/learning.draft.md"

def proposePrompt : Text := joinTexts [
  ofString "Autonomous candidate proposal phase.",
  ofString "Read program.md; you are the proposer — your role is its 'Propose' and 'Patch' " ++
    ofString "steps in the 'One cycle' section (diagnose the prior run, then put one bounded " ++
    ofString "candidate patch in the working tree).",
  ofString "Editable files (machine-enforced): " ++ List.intercalate (ofString ", ") target.patchPaths ++
    ofString ". The candidate MUST change " ++ target.surface ++ ofString ".",
  ofString "Read these authoritative files now:",
  ofString "- " ++ programPath repoRoot,
  ofString "- " ++ stagedRoot repoRoot ++ ofString "/learning.md",
  ofString "- " ++ stagedRoot repoRoot ++ ofString "/runs.jsonl",
  [],
  ofString "Before stopping, run the test command program.md's 'Patch' step names and keep it green.",
  ofString "Stop once the candidate patch is present in the working tree and that test passes."]

/-- The lines of the first prompt of a diagnosis. -/
def diagnosisLines (experimentId : Text) : List Text := [
  ofString "Autonomous post-run diagnosis phase.",
  ofString "Read program.md; you are the diagnoser — your role is its 'Diagnose' step in the " ++
    ofString "'One cycle' section (rewrite the learning memo from the concluded run, per the " ++
    ofString "method and sections described there).",
  ofString "The editable policy surface under training is " ++ target.surface ++ ofString ".",
  ofString "Read these authoritative files now:",
  ofString "- " ++ programPath repoRoot,
  ofString "- " ++ stagedRoot repoRoot ++ ofString "/" ++ experimentId ++ ofString "/experiment.json",
  ofString "- " ++ stagedRoot repoRoot ++ ofString "/runs.jsonl",
  ofString "- " ++ stagedRoot repoRoot ++ ofString "/learning.md",
  [],
  ofString "Write the full rewritten learning memo to: " ++ draftPath repoRoot,
  ofString "Keep it non-empty and at most " ++ decimal LEARNING_MEMO_MAX_LINES ++ ofString " lines."]

/-- What a rejection adds to it. -/
def feedbackLines : Option Text → List Text
  | none => []
  | some note => [[], ofString "Supervisor feedback from the previous diagnosis turn:", note]

def diagnosisPrompt (experimentId : Text) (feedbackNote : Option Text) : Text :=
  joinTexts (diagnosisLines target repoRoot experimentId ++ feedbackLines feedbackNote)

/-- A program of the host, beside the store. -/
def onHost {α : Type} (m : Prog (AgentHost (Worktree × W)) TurnError α) :
    Prog (Training W) EstimatorError α :=
  fun s ↦ ((exec m s.host).1.mapError .turn, { s with host := (exec m s.host).2 })

/-- The copies are made. -/
def Training.stage (s : Training W) (experimentId : Option Text) : Training W :=
  { s with host := { s.host with
      machine := (stageReads s.store experimentId s.host.machine.1, s.host.machine.2) } }

def Training.emit (s : Training W) (line : Text) : Training W :=
  { s with host := { s.host with emitted := s.host.emitted ++ [line] } }

/-- `publish_learning`. -/
def Training.publish (s : Training W) (memo : Text) : Training W :=
  { s with store := { s.store with learning := some memo } }

/-- The draft of the worktree. -/
def Training.draft (s : Training W) : Draft := s.host.machine.1.draft

/-- `propose`. -/
def propose : Prog (Training W) EstimatorError Unit := do
  modify fun s ↦ s.stage none
  let turn ← onHost (runTurn repoRoot (proposePrompt target repoRoot) none)
  modify fun s ↦ s.emit (ofString "done · " ++ turn.progressSummary)

/-- What is done with the draft of a turn: the note of a rejection, if there is one. -/
def judgeDraft (turn : TurnResult) : Prog (Training W) EstimatorError (Option Text) := do
  let s ← get
  match diagnosisRejection u (draftPath repoRoot) s.draft, s.draft with
  | .error error, _ => throw (.reading error)
  | .ok (some note), _ => return some note
  | .ok none, .text memo => do
    modify fun s ↦ (s.publish memo).emit (ofString "done · " ++ turn.progressSummary)
    return none
  | .ok none, _ => return none

/-- The attempts of `diagnose` that are left. -/
def diagnoseIn (experimentId : Text) : ℕ → Option Text → Option Text → Prog (Training W) EstimatorError Unit
  | 0, _, feedbackNote =>
    throw (.rejected (ofString "diagnosis memo rejected after " ++ decimal MAX_DIAGNOSIS_ATTEMPTS ++
      ofString " attempts: " ++ feedbackNote.getD (ofString "None")))
  | n + 1, threadId, feedbackNote => do
    let turn ← onHost (runTurn repoRoot (diagnosisPrompt target repoRoot experimentId feedbackNote) threadId)
    match ← judgeDraft u repoRoot turn with
    | none => return
    | some note => diagnoseIn experimentId n (some turn.threadId) (some note)

/-- `diagnose`. -/
def diagnose (experimentId : Text) : Prog (Training W) EstimatorError Unit := do
  modify fun s ↦ s.stage (some experimentId)
  diagnoseIn u runTurn target repoRoot experimentId MAX_DIAGNOSIS_ATTEMPTS none none

end Estimator

/-! ## What the calls keep -/

section Remembering

variable {W : Type} (u : Unicode) (glob : Text → SessionPath → Bool) (target : Target)

/-- A turn resumes the one before it, with a note on the draft that this left. -/
def Resumes (before : List (CodexTurn (Worktree × W))) (turn : CodexTurn (Worktree × W))
    (threadId : Text) : Prop :=
  ∃ earlier previous summary repoRoot experimentId feedbackNote note,
    before = earlier ++ [previous] ∧ previous.outcome = .ok ⟨threadId, summary⟩ ∧
      previous.prompt = diagnosisPrompt target repoRoot experimentId feedbackNote ∧
      turn.prompt = diagnosisPrompt target repoRoot experimentId (some note) ∧
      diagnosisRejection u (draftPath repoRoot) turn.machine.1.draft = .ok (some note)

/-- **The invariant**, from the sessions and the memo that there were. -/
structure Remembers (initial : Sessions) (memo : Option Text) (s : Training W) : Prop where
  archives : Archives glob initial s.host
  memo : s.store.learning = memo ∨ ∃ published, s.store.learning = some published ∧ Acceptable u published
  resumes : ∀ before after turn threadId, s.host.turns = before ++ turn :: after →
    turn.threadId = some threadId → Resumes u target before turn threadId

variable {u glob target} {initial : Sessions} {memo : Option Text} {s s' : Training W}

/-- A turn is added to those of a host. -/
theorem Remembers.ran (h : Remembers u glob target initial memo s) {prompt : Text}
    {threadId : Option Text} {host : AgentHost (Worktree × W)} {turn : CodexTurn (Worktree × W)}
    (hran : Ran glob prompt threadId s.host host turn)
    (hresumes : ∀ resumed, threadId = some resumed → Resumes u target s.host.turns turn resumed) :
    Remembers u glob target initial memo { s with host := host } where
  archives := hran.archives initial h.archives
  memo := h.memo
  resumes before after turn' threadId' hturns hresumed := by
    rw [hran.turns] at hturns
    rcases Transitions.split_snoc hturns with ⟨rfl, rfl⟩ | ⟨rest, hbefore⟩
    · exact hresumes threadId' (hran.threadId.symm.trans hresumed)
    · exact h.resumes before rest turn' threadId' hbefore hresumed

/-- What changes neither the memo nor the turns keeps the invariant. -/
theorem Remembers.other (h : Remembers u glob target initial memo s)
    (hlearning : s'.store.learning = s.store.learning) (htraceDir : s'.host.traceDir = s.host.traceDir)
    (hturns : s'.host.turns = s.host.turns) : Remembers u glob target initial memo s' where
  archives := ⟨by rw [htraceDir, hturns, h.archives.archive], by rw [hturns]; exact h.archives.homes⟩
  memo := by rw [hlearning]; exact h.memo
  resumes := by rw [hturns]; exact h.resumes

/-- A session that the turn before left of the thread is there when it is resumed, as it was left. -/
theorem Remembers.restored (h : Remembers u glob target initial memo s)
    (before after : List (CodexTurn (Worktree × W))) (turn previous : CodexTurn (Worktree × W))
    (threadId : Text) (path : SessionPath)
    (hturns : s.host.turns = (before ++ [previous]) ++ turn :: after)
    (hthreadId : turn.threadId = some threadId) (hrollout : isRollout path = true) (hthread : isOfThread glob threadId path = true)
    (hleft : previous.left path ≠ none) : turn.home path = previous.left path := by
  obtain ⟨content, hcontent⟩ := Option.ne_none_iff_exists'.mp hleft
  rw [h.archives.homes _ _ _ hturns, hthreadId, provisionHome, copyRollouts, if_pos hthread,
    archived_snoc, copyRollouts, if_pos hrollout, hcontent]
  rfl

end Remembering

section Calls

variable {W : Type} {u : Unicode} {glob : Text → SessionPath → Bool} {config : CodexConfig}
  {cli : AgentCli (Worktree × W)} {target : Target} {repoRoot : Text} {initial : Sessions}
  {memo : Option Text} {s : Training W}

theorem wp_onHost {α : Type} {m : Prog (AgentHost (Worktree × W)) TurnError α}
    {Q : α → Training W → Prop} {E : EstimatorError → Training W → Prop} :
    wp (onHost m) Q E s ↔ wp m (fun a host ↦ Q a { s with host := host })
      (fun error host ↦ E (.turn error) { s with host := host }) s.host := by
  have hexec : exec (onHost m) s =
      ((exec m s.host).1.mapError .turn, { s with host := (exec m s.host).2 }) := rfl
  rw [wp, wp, hexec]
  rcases exec m s.host with ⟨_ | _, _⟩ <;> exact Iff.rfl

/-- What a draft comes to. -/
theorem wp_judgeDraft {turn : TurnResult} {Q : Option Text → Training W → Prop}
    {E : EstimatorError → Training W → Prop}
    (hpublish : ∀ draft, s.draft = .text draft → Acceptable u draft →
      Q none ((s.publish draft).emit (ofString "done · " ++ turn.progressSummary)))
    (hreject : ∀ note, diagnosisRejection u (draftPath repoRoot) s.draft = .ok (some note) →
      Q (some note) s)
    (herror : ∀ error, E (.reading error) s) : wp (judgeDraft u repoRoot turn) Q E s := by
  rw [judgeDraft, wp_bind, wp_get]
  cases hjudged : diagnosisRejection u (draftPath repoRoot) s.draft with
  | error error => exact herror error
  | ok judged =>
    cases judged with
    | some note => exact hreject note hjudged
    | none =>
      obtain ⟨draft, hdraft, haccepted⟩ := diagnosisRejection_eq_none.mp hjudged
      rw [hdraft]
      exact hpublish draft hdraft haccepted

/-- The turns of some attempts. -/
structure Attempts (s s' : Training W) (n : ℕ) (threadId : Option Text)
    (turns : List (CodexTurn (Worktree × W))) : Prop where
  appended : s'.host.turns = s.host.turns ++ turns
  length_le : turns.length ≤ n
  /-- The first finds what there is. -/
  first : ∀ first, turns.head? = some first → first.machine = s.host.machine ∧ first.threadId = threadId
  /-- The others resume a thread. -/
  rest : ∀ turn ∈ turns.tail, turn.threadId ≠ none

theorem attempts_nil {s' : Training W} (h : s'.host.turns = s.host.turns) (n : ℕ)
    (threadId : Option Text) : Attempts s s' n threadId [] :=
  ⟨h.trans (List.append_nil _).symm, Nat.zero_le n, nofun, nofun⟩

/-- An attempt, and then those after it. -/
theorem Attempts.cons {s' : Training W} {n : ℕ} {prompt threadId' : Text} {threadId : Option Text}
    {host : AgentHost (Worktree × W)} {turn : CodexTurn (Worktree × W)}
    {turns : List (CodexTurn (Worktree × W))} (hran : Ran glob prompt threadId s.host host turn)
    (h : Attempts { s with host := host } s' n (some threadId') turns) :
    Attempts s s' (n + 1) threadId (turn :: turns) where
  appended := by
    rw [h.appended, hran.turns, List.append_assoc, List.singleton_append]
  length_le := Nat.succ_le_succ h.length_le
  first first hfirst := by
    obtain rfl := Option.some.inj hfirst
    exact ⟨hran.machine, hran.threadId⟩
  rest := by
    rw [List.tail_cons]
    cases turns with
    | nil => exact nofun
    | cons next turns =>
      refine List.forall_mem_cons.mpr ⟨?_, h.rest⟩
      rw [(h.first next rfl).2]
      exact Option.some_ne_none threadId'

/-- An attempt, and no other. -/
theorem attempts_singleton {s' : Training W} (n : ℕ) {prompt : Text} {threadId : Option Text}
    {host : AgentHost (Worktree × W)} {turn : CodexTurn (Worktree × W)}
    (hran : Ran glob prompt threadId s.host host turn) (h : s'.host.turns = host.turns) :
    Attempts s s' (n + 1) threadId [turn] :=
  -- No attempt resumes it, so that the thread does not matter.
  Attempts.cons hran (attempts_nil h n (some []))

/-- The turns of a diagnosis, the first beside the others. -/
theorem Attempts.exists_first {s' : Training W} {n : ℕ} {threadId : Option Text}
    {turns : List (CodexTurn (Worktree × W))} (h : Attempts s s' n threadId turns) (hne : turns ≠ []) :
    ∃ first rest, turns = first :: rest ∧ s'.host.turns = s.host.turns ++ first :: rest ∧
      rest.length < n ∧ first.threadId = threadId ∧ (∀ turn ∈ rest, turn.threadId ≠ none) ∧
      first.machine = s.host.machine := by
  obtain ⟨first, rest, rfl⟩ := List.exists_cons_of_ne_nil hne
  obtain ⟨hmachine, hthreadId⟩ := h.first first rfl
  exact ⟨first, rest, rfl, h.appended, h.length_le, hthreadId, h.rest, hmachine⟩

/-- The draft is published. -/
def Published (u : Unicode) (s s' : Training W) : Prop :=
  ∃ draft, s'.store = { s.store with learning := some draft } ∧ s'.draft = .text draft ∧ Acceptable u draft

/-- A draft that is accepted is remembered. -/
theorem Remembers.publish (h : Remembers u glob target initial memo s) {draft : Text}
    (haccepted : Acceptable u draft) (line : Text) :
    Remembers u glob target initial memo ((s.publish draft).emit line) where
  archives := ⟨h.archives.archive, h.archives.homes⟩
  memo := Or.inr ⟨draft, rfl, haccepted⟩
  resumes := h.resumes

/-- **The attempts of a diagnosis.** -/
theorem wp_diagnoseIn {experimentId : Text} (n : ℕ) {threadId feedbackNote : Option Text}
    (h : Remembers u glob target initial memo s)
    (hresumes : ∀ resumed, threadId = some resumed → ∀ turn : CodexTurn (Worktree × W),
      turn.prompt = diagnosisPrompt target repoRoot experimentId feedbackNote →
      turn.machine = s.host.machine → Resumes u target s.host.turns turn resumed) :
    wp (diagnoseIn u (runCodexTurn u glob config cli) target repoRoot experimentId n threadId feedbackNote)
      (fun _ s' ↦ Remembers u glob target initial memo s' ∧ Published u s s' ∧
        ∃ turns, Attempts s s' n threadId turns ∧ turns ≠ [])
      (fun error s' ↦ Remembers u glob target initial memo s' ∧ s'.store = s.store ∧
        ∃ turns, Attempts s s' n threadId turns ∧ (n ≠ 0 → turns ≠ []) ∧
          ∀ text, error = .rejected text → turns.length = n ∧
            ∀ turn ∈ turns, ∃ result, turn.outcome = .ok result) s := by
  induction n generalizing s threadId feedbackNote with
  | zero =>
    rw [diagnoseIn, wp_throw]
    exact ⟨h, rfl, [], attempts_nil rfl 0 threadId, fun hn ↦ absurd rfl hn, fun _ _ ↦ ⟨rfl, nofun⟩⟩
  | succ n ih =>
    rw [diagnoseIn, wp_bind, wp_onHost]
    refine wp_runCodexTurn (fun turn result host hran houtcome ↦ ?_) fun turn error host hran _ ↦ ?_
    · have hran' := h.ran hran fun resumed hthreadId ↦ hresumes resumed hthreadId turn hran.prompt
        hran.machine
      rw [wp_bind]
      refine wp_judgeDraft (fun draft hdraft haccepted ↦ ?_) (fun note hnote ↦ ?_) fun error ↦ ?_
      · exact ⟨hran'.publish haccepted _, ⟨draft, rfl, hdraft, haccepted⟩, [turn],
          attempts_singleton n hran rfl, List.cons_ne_nil _ _⟩
      · dsimp only
        have hresumes' : ∀ resumed, some result.threadId = some resumed →
            ∀ turn' : CodexTurn (Worktree × W),
            turn'.prompt = diagnosisPrompt target repoRoot experimentId (some note) →
            turn'.machine = host.machine → Resumes u target host.turns turn' resumed := by
          intro resumed hresumed turn' hprompt hmachine
          obtain rfl := Option.some.inj hresumed
          refine ⟨s.host.turns, turn, result.progressSummary, repoRoot, experimentId, feedbackNote, note,
            hran.turns, houtcome, hran.prompt, hprompt, ?_⟩
          rw [hmachine]
          exact hnote
        refine wp_mono (ih hran' hresumes') ?_ ?_
        · rintro - s' ⟨hkept, hpublished, turns, hattempts, -⟩
          exact ⟨hkept, hpublished, turn :: turns, hattempts.cons hran, List.cons_ne_nil _ _⟩
        · rintro error s' ⟨hkept, hstore, turns, hattempts, -, hrejected⟩
          refine ⟨hkept, hstore, turn :: turns, hattempts.cons hran, fun _ ↦ List.cons_ne_nil _ _,
            fun text htext ↦ ?_⟩
          obtain ⟨hlength, houtcomes⟩ := hrejected text htext
          exact ⟨congrArg (· + 1) hlength, List.forall_mem_cons.mpr ⟨⟨result, houtcome⟩, houtcomes⟩⟩
      · exact ⟨hran', rfl, [turn], attempts_singleton n hran rfl,
          fun _ ↦ List.cons_ne_nil _ _, nofun⟩
    · exact ⟨h.ran hran fun resumed hthreadId ↦ hresumes resumed hthreadId turn hran.prompt hran.machine,
        rfl, [turn], attempts_singleton n hran rfl, fun _ ↦ List.cons_ne_nil _ _, nofun⟩

variable (config cli repoRoot) in
/-- **A diagnosis.** -/
theorem wp_diagnose (experimentId : Text) (h : Remembers u glob target initial memo s) :
    wp (diagnose u (runCodexTurn u glob config cli) target repoRoot experimentId)
      (fun _ s' ↦ Remembers u glob target initial memo s' ∧ Published u s s' ∧
        ∃ turns, Attempts (s.stage (some experimentId)) s' MAX_DIAGNOSIS_ATTEMPTS none turns ∧ turns ≠ [])
      (fun error s' ↦ Remembers u glob target initial memo s' ∧ s'.store = s.store ∧
        ∃ turns, Attempts (s.stage (some experimentId)) s' MAX_DIAGNOSIS_ATTEMPTS none turns ∧
          turns ≠ [] ∧ ∀ text, error = .rejected text → turns.length = MAX_DIAGNOSIS_ATTEMPTS ∧
            ∀ turn ∈ turns, ∃ result, turn.outcome = .ok result) s := by
  have hstage : Remembers u glob target initial memo (s.stage (some experimentId)) := h.other rfl rfl rfl
  rw [diagnose, wp_bind, wp_modify]
  refine wp_mono (wp_diagnoseIn MAX_DIAGNOSIS_ATTEMPTS hstage nofun) (fun _ _ h ↦ h) ?_
  rintro error s' ⟨hkept, hstore, turns, hattempts, hturns, hrejected⟩
  exact ⟨hkept, hstore, turns, hattempts, hturns (by decide), hrejected⟩

/-- A proposal keeps the store. -/
theorem wp_propose (h : Remembers u glob target initial memo s) :
    wp (propose (runCodexTurn u glob config cli) target repoRoot)
      (fun _ s' ↦ Remembers u glob target initial memo s' ∧ s'.store = s.store)
      (fun _ s' ↦ Remembers u glob target initial memo s' ∧ s'.store = s.store) s := by
  have hstage : Remembers u glob target initial memo (s.stage none) := h.other rfl rfl rfl
  rw [propose, wp_bind, wp_modify, wp_bind, wp_onHost]
  refine wp_runCodexTurn (fun turn result host hran _ ↦ ?_) fun turn error host hran _ ↦ ?_
  · rw [wp_modify]
    exact ⟨(hstage.ran hran nofun).other rfl rfl rfl, rfl⟩
  · exact ⟨hstage.ran hran nofun, rfl⟩

end Calls

/-! ## Any calls -/

section Run

variable {W : Type}

/-- What happens to a training, as far as its agents are concerned. -/
inductive EstimatorCall (W : Type) where
  | propose (repoRoot : Text)
  | diagnose (repoRoot experimentId : Text)
  /-- Runs are recorded, and there is another worktree. -/
  | between (runsIndex : Option Text) (experiment : Text → Option Text) (machine : Worktree × W)

variable (u : Unicode) (glob : Text → SessionPath → Bool) (config : CodexConfig)
  (cli : AgentCli (Worktree × W)) (target : Target)

def Training.after (s : Training W) : EstimatorCall W → Training W
  | .propose repoRoot => (exec (propose (runCodexTurn u glob config cli) target repoRoot) s).2
  | .diagnose repoRoot experimentId =>
    (exec (diagnose u (runCodexTurn u glob config cli) target repoRoot experimentId) s).2
  | .between runsIndex experiment machine =>
    { store := { s.store with runsIndex := runsIndex, experiment := experiment }
      host := { s.host with machine := machine } }

/-- A training whose agents have not run. -/
def Training.new (store : Reads) (traceDir : Sessions) (machine : Worktree × W) : Training W :=
  ⟨store, { traceDir := traceDir, machine := machine }⟩

variable {u glob config cli target}

theorem Remembers.after {initial : Sessions} {memo : Option Text} {s : Training W}
    (h : Remembers u glob target initial memo s) (call : EstimatorCall W) :
    Remembers u glob target initial memo (s.after u glob config cli target call) := by
  cases call with
  | propose repoRoot =>
    exact wp_left (wp_mono (wp_propose h) (fun _ _ h ↦ h.1) fun _ _ h ↦ h.1)
  | diagnose repoRoot experimentId =>
    exact wp_left (wp_mono (wp_diagnose config cli repoRoot experimentId h) (fun _ _ h ↦ h.1) fun _ _ h ↦ h.1)
  | between runsIndex experiment machine => exact h.other rfl rfl rfl

theorem remembers_run (store : Reads) (traceDir : Sessions) (machine : Worktree × W)
    (calls : List (EstimatorCall W)) : Remembers u glob target traceDir store.learning
      (calls.foldl (Training.after u glob config cli target) (.new store traceDir machine)) := by
  have hstart : Remembers u glob target traceDir store.learning (.new store traceDir machine) :=
    ⟨archives_start glob (Training.new store traceDir machine).host rfl, Or.inl rfl,
      fun before after turn _ hturns ↦ absurd hturns.symm (by simp [Training.new])⟩
  generalize Training.new store traceDir machine = s at hstart
  induction calls generalizing s with
  | nil => exact hstart
  | cons call calls ih => exact ih _ (hstart.after call)

variable (u glob target) in
/-- What a diagnosis does to a training, whose store and archive there were at its start. -/
structure Diagnosed (store : Reads) (traceDir : Sessions) (experimentId : Text) (s s' : Training W)
    (outcome : Except EstimatorError Unit) : Prop where
  /-- The memo is the one that there was, or one that was accepted. -/
  memo : s'.store.learning = store.learning ∨
    ∃ published, s'.store.learning = some published ∧ Acceptable u published
  /-- It returns when it publishes the draft that the last turn left; else the store is as it was. -/
  returns : outcome = .ok () → Published u s s'
  raises : ∀ error, outcome = .error error → s'.store = s.store
  /-- There are one or two turns.  The first is of a new thread, and finds what the store has; another is
  of an old one. -/
  turns : ∃ first rest, s'.host.turns = s.host.turns ++ first :: rest ∧
    rest.length < MAX_DIAGNOSIS_ATTEMPTS ∧ first.threadId = none ∧
    (∀ turn ∈ rest, turn.threadId ≠ none) ∧
    first.machine = (stageReads s.store (some experimentId) s.host.machine.1, s.host.machine.2) ∧
    ∀ text, outcome = .error (.rejected text) → rest.length + 1 = MAX_DIAGNOSIS_ATTEMPTS ∧
      ∀ turn ∈ first :: rest, ∃ result, turn.outcome = .ok result
  /-- A turn of an old thread resumes the one before it, with a note on the draft that this left. -/
  resumes : ∀ before after turn threadId, s'.host.turns = before ++ turn :: after →
    turn.threadId = some threadId → Resumes u target before turn threadId
  /-- It finds the sessions of the thread as they were left. -/
  restored : ∀ before after turn previous threadId path,
    s'.host.turns = (before ++ [previous]) ++ turn :: after → turn.threadId = some threadId →
    isRollout path = true → isOfThread glob threadId path = true → previous.left path ≠ none →
    turn.home path = previous.left path
  /-- The sessions of every turn are archived, however it ended. -/
  archive : s'.host.traceDir = archived traceDir s'.host.turns

/-- **What a diagnosis does**, after any calls and whatever its agents do. -/
theorem diagnosis (store : Reads) (traceDir : Sessions) (machine : Worktree × W)
    (calls : List (EstimatorCall W)) (repoRoot experimentId : Text) :
    Diagnosed u glob target store traceDir experimentId
      (calls.foldl (Training.after u glob config cli target) (.new store traceDir machine))
      (exec (diagnose u (runCodexTurn u glob config cli) target repoRoot experimentId)
        (calls.foldl (Training.after u glob config cli target) (.new store traceDir machine))).2
      (exec (diagnose u (runCodexTurn u glob config cli) target repoRoot experimentId)
        (calls.foldl (Training.after u glob config cli target) (.new store traceDir machine))).1 := by
  have hkept : Remembers u glob target traceDir store.learning
      (calls.foldl (Training.after u glob config cli target) (.new store traceDir machine)) :=
    remembers_run store traceDir machine calls
  generalize calls.foldl (Training.after u glob config cli target) (.new store traceDir machine) = s
    at hkept ⊢
  have hspec := wp_diagnose config cli repoRoot experimentId hkept
  rw [wp] at hspec
  rcases hexec : exec (diagnose u (runCodexTurn u glob config cli) target repoRoot experimentId) s with
    ⟨error | _, s'⟩
  · rw [hexec] at hspec
    obtain ⟨hkept, hstore, turns, hattempts, hne, hrejected⟩ := hspec
    obtain ⟨first, rest, rfl, happended, hlength, hthreadId, hrest, hmachine⟩ :=
      hattempts.exists_first hne
    refine ⟨hkept.memo, ?_, fun _ _ ↦ hstore, ⟨first, rest, happended, hlength, hthreadId, hrest, hmachine,
      fun text htext ↦ hrejected text (Except.error.inj htext)⟩, hkept.resumes, hkept.restored,
      hkept.archives.archive⟩
    intro hreturn
    cases hreturn
  · rw [hexec] at hspec
    obtain ⟨hkept, hpublished, turns, hattempts, hne⟩ := hspec
    obtain ⟨first, rest, -, happended, hlength, hthreadId, hrest, hmachine⟩ := hattempts.exists_first hne
    refine ⟨hkept.memo, fun _ ↦ hpublished, ?_, ⟨first, rest, happended, hlength, hthreadId, hrest,
      hmachine, ?_⟩, hkept.resumes, hkept.restored, hkept.archives.archive⟩
    · intro error herror
      cases herror
    · intro text herror
      cases herror

end Run

end Agents

end HarnessTraining
