import HarnessTraining.Replay.Audit
import HarnessTraining.Replay.Keys
import HarnessTraining.Replay.Recordability

/-!
# Chain files

The file of an action chain: `write_chain` of `src/rollout/certification.py` writes one JSON row for
each step, and `_load_chain` of `src/plugins/replay/audit.py` reads them back.

* `chainRows_chainText` — what was written is read back, row by row.
-/

set_option autoImplicit false

namespace HarnessTraining

/-! ## Writing -/

def VerdictSummary.toJson (summary : VerdictSummary) : Json := .obj [
  ("passed", .ofOption .bool summary.passed),
  ("reward", summary.reward.toJson)]

/-- A row as a dictionary. -/
def ChainRow.toJson : ChainRow → Json
  | .run action auditHash timedOut => .obj [
      ("action", actionPayload (.run action)),
      ("audit_hash", .str auditHash),
      ("timed_out", .bool timedOut)]
  | .verify verdict timedOut => .obj [
      ("action", actionPayload .verify),
      ("verdict", verdict.toJson),
      ("timed_out", .bool timedOut)]

/-- `write_chain`: the text of the file. -/
def chainText (u : Unicode) (hexdigest : String → String) (steps : List ChainStep) : List Char :=
  steps.flatMap fun step ↦ (chainRow u hexdigest step).toJson.dumps.toList ++ ['\n']

/-! ## Reading -/

/-- `RunAction(command=action["command"], ...)`. -/
def RunAction.ofJson? (action : List (String × Json)) : Option RunAction := do
  return {
    command := ← Json.fieldOr action "command" none Json.str?
    cwd := ← Json.fieldOr action "cwd" none (Json.orNull? Json.str?)
    timeoutSec := ← Json.fieldOr action "timeout_sec" none (Json.orNull? Number.ofJson?) }

def VerdictSummary.ofJson? (j : Json) : Option VerdictSummary := do
  let members ← j.obj?
  return {
    passed := ← Json.fieldOr members "passed" none (Json.orNull? Json.bool?)
    reward := ← Json.fieldOr members "reward" none Number.ofJson? }

/-- A row of the file; `none` is an exception. -/
def ChainRow.ofJson? (j : Json) : Option ChainRow := do
  let row ← j.obj?
  let action ← Json.fieldOr row "action" none Json.obj?
  let timedOut := row.lookup "timed_out" = some (.bool true)
  if action.lookup "kind" = some (.str "run") then
    return .run (← RunAction.ofJson? action) (← Json.fieldOr row "audit_hash" none Json.str?) timedOut
  else
    return .verify (← Json.fieldOr row "verdict" none VerdictSummary.ofJson?) timedOut

/-- `_load_chain`, of a file that exists.  The text of the exception depends on what is wrong with the
row. -/
def chainRows (text : List Char) : Except String (List ChainRow) :=
  match (textLines text []).mapM fun line ↦ (Json.loads (String.ofList line)).bind ChainRow.ofJson? with
  | some rows => .ok rows
  | none => .error "the row is not a chain row"

/-! ## The round trip -/

/-- A line that has no line boundary in it is read to its end. -/
theorem textLines_append {line : List Char} (hline : ∀ c ∈ line, Json.Printable c)
    (rest current : List Char) :
    textLines (line ++ '\n' :: rest) current = (current ++ line) :: textLines rest [] := by
  induction line generalizing current with
  | nil =>
    rw [List.nil_append, List.append_nil, textLines]
    · rw [if_pos (by decide)]
    · rintro rest' ⟨⟩
  | cons c line ih =>
    obtain ⟨hc, hline⟩ := List.forall_mem_cons.mp hline
    have hboundary : c ∉ ['\n', '\r', '\x0b', '\x0c', '\x1c', '\x1d', '\x1e', '\u0085', '\u2028',
        '\u2029'] := by
      intro hmem
      have hall : ['\n', '\r', '\x0b', '\x0c', '\x1c', '\x1d', '\x1e', '\u0085', '\u2028',
        '\u2029'].all (fun c ↦ !decide (Json.Printable c)) = true := rfl
      have hnot := List.all_eq_true.mp hall c hmem
      rw [decide_eq_true hc] at hnot
      cases hnot
    rw [List.cons_append, textLines, if_neg hboundary, ih hline, List.append_assoc, List.singleton_append]
    rintro rest' ⟨⟩
    exact fun _ ↦ hboundary (by decide)

theorem textLines_lines {lines : List (List Char)}
    (hlines : ∀ line ∈ lines, ∀ c ∈ line, Json.Printable c) :
    textLines (lines.flatMap fun line ↦ line ++ ['\n']) [] = lines := by
  induction lines with
  | nil => rfl
  | cons line lines ih =>
    obtain ⟨hline, hlines⟩ := List.forall_mem_cons.mp hlines
    rw [List.flatMap_cons, List.append_assoc, List.singleton_append, textLines_append hline, ih hlines,
      List.nil_append]

theorem VerdictSummary.normal_toJson (summary : VerdictSummary) :
    summary.toJson.normal = summary.toJson := by
  have hpassed : (Json.ofOption .bool summary.passed).normal = .ofOption .bool summary.passed :=
    Json.normal_ofOption (fun _ ↦ rfl) _
  simp +decide only [toJson, Json.normal, Json.normalMembers, Json.insertMember, hpassed,
    Number.normal_toJson, if_false]

theorem VerdictSummary.ofJson?_toJson (summary : VerdictSummary) :
    VerdictSummary.ofJson? summary.toJson = some summary := by
  have hpassed : Json.orNull? Json.bool? (.ofOption .bool summary.passed) = some summary.passed :=
    Json.orNull?_ofOption .bool Json.bool? (fun _ ↦ ⟨rfl, by simp⟩) _
  simp +decide [VerdictSummary.ofJson?, toJson, Json.obj?, Json.fieldOr, List.lookup_cons, hpassed,
    Number.ofJson?_toJson]

/-- A row is read back as it was. -/
theorem ChainRow.ofJson?_toJson (row : ChainRow) : ChainRow.ofJson? row.toJson.normal = some row := by
  cases row with
  | run action auditHash timedOut =>
    have hcwd : Json.orNull? Json.str? (.ofOption .str action.cwd) = some action.cwd :=
      Json.orNull?_ofOption .str Json.str? (fun _ ↦ ⟨rfl, by simp⟩) _
    have htimeout : Json.orNull? Number.ofJson? (.ofOption Number.toJson action.timeoutSec) =
        some action.timeoutSec :=
      Json.orNull?_ofOption Number.toJson Number.ofJson?
        (fun n ↦ ⟨Number.ofJson?_toJson n, by cases n <;> simp [Number.toJson]⟩) _
    have hnormal : (ChainRow.run action auditHash timedOut).toJson.normal = .obj [
        ("action", (actionPayload (.run action)).normal),
        ("audit_hash", .str auditHash),
        ("timed_out", .bool timedOut)] := by
      simp +decide only [toJson, Json.normal, Json.normalMembers, Json.insertMember, if_false]
    rw [hnormal, normal_actionPayload_run]
    simp +decide [ChainRow.ofJson?, Json.obj?, Json.fieldOr, List.lookup_cons, RunAction.ofJson?, hcwd,
      htimeout, Json.str?]
  | verify verdict timedOut =>
    have hnormal : (ChainRow.verify verdict timedOut).toJson.normal = .obj [
        ("action", .obj [("kind", .str "verify")]),
        ("timed_out", .bool timedOut),
        ("verdict", verdict.toJson)] := by
      simp +decide only [toJson, actionPayload, Json.normal, Json.normalMembers, Json.insertMember,
        VerdictSummary.normal_toJson, if_true, if_false]
    rw [hnormal]
    simp +decide [ChainRow.ofJson?, Json.obj?, Json.fieldOr, List.lookup_cons,
      VerdictSummary.ofJson?_toJson]

/-- **The round trip of a chain file.** -/
theorem chainRows_chainText (u : Unicode) (hexdigest : String → String) (steps : List ChainStep) :
    chainRows (chainText u hexdigest steps) = .ok (steps.map (chainRow u hexdigest)) := by
  have htext : chainText u hexdigest steps =
      (steps.map fun step ↦ (chainRow u hexdigest step).toJson.dumps.toList).flatMap
        fun line ↦ line ++ ['\n'] := by
    rw [chainText, List.flatMap_map]
  have hlines : ∀ line ∈ steps.map fun step ↦ (chainRow u hexdigest step).toJson.dumps.toList,
      ∀ c ∈ line, Json.Printable c := by
    rintro line hline c hc
    obtain ⟨step, -, rfl⟩ := List.mem_map.mp hline
    rw [Json.dumps, String.toList_ofList] at hc
    exact Json.printable_render _ c hc
  have hread : ∀ steps : List ChainStep,
      (steps.map fun step ↦ (chainRow u hexdigest step).toJson.dumps.toList).mapM
        (fun line ↦ (Json.loads (String.ofList line)).bind ChainRow.ofJson?) =
      some (steps.map (chainRow u hexdigest)) := by
    intro steps
    induction steps with
    | nil => rfl
    | cons step steps ih =>
      rw [List.map_cons, List.mapM_cons, ih, String.ofList_toList, Json.loads_dumps, Option.bind_some,
        ChainRow.ofJson?_toJson]
      rfl
  rw [chainRows, htext, textLines_lines hlines, hread]

end HarnessTraining
