import HarnessTraining.Env.Base

/-!
# Certification

`src/rollout/certification.py`: how an action and a step result are written, and the drift-audit
identity of a step result, which is the digest of the result with the drift-audit form of its output.
-/

set_option autoImplicit false

namespace HarnessTraining

/-- `action_payload`. -/
def actionPayload : EnvAction → Json
  | .run action => .obj [
      ("kind", .str "run"),
      ("command", .str action.command),
      ("cwd", .ofOption .str action.cwd),
      ("timeout_sec", .ofOption Number.toJson action.timeoutSec)]
  | .verify => .obj [("kind", .str "verify")]

/-! ## Step results as JSON -/

def VerifyVerdict.toJson (verdict : VerifyVerdict) : Json := .obj [
  ("completed", .bool verdict.completed),
  ("passed", .ofOption .bool verdict.passed),
  ("error", .ofOption .str verdict.error)]

def RawEnvOutput.toJson (raw : RawEnvOutput) : Json := .obj [
  ("instruction", .str raw.instruction),
  ("working_dir", .ofOption .str raw.workingDir),
  ("exit_code", .ofOption .int raw.exitCode),
  ("stdout", .str raw.stdout),
  ("stderr", .str raw.stderr)]

def Info.toJson (info : Info) : Json := .obj info.members

def Metrics.toJson (metrics : Metrics) : Json :=
  .obj (metrics.members.map fun m ↦ (m.1, m.2.toJson))

/-- `dataclasses.asdict`. -/
def StepResult.toJson (result : StepResult) : Json := .obj [
  ("raw_env_output", result.rawEnvOutput.toJson),
  ("reward", result.reward.toJson),
  ("terminated", .bool result.terminated),
  ("truncated", .bool result.truncated),
  ("info", result.info.toJson),
  ("metrics", result.metrics.toJson),
  ("verdict", .ofOption VerifyVerdict.toJson result.verdict)]

/-- `serialize_step_result`. -/
def serializeStepResult (result : StepResult) : String := result.toJson.dumps

/-! ## Written keys in order -/

theorem Info.normal_toJson (info : Info) : info.toJson.normal = info.toJson := by
  have h := Json.normalMembers_append [] info.members
    (by rw [List.nil_append]; exact info.dictionary)
  rw [Info.toJson, Json.normal, h, List.nil_append]

theorem Metrics.normal_toJson (metrics : Metrics) : metrics.toJson.normal = metrics.toJson := by
  have hdictionary : Json.Dictionary (metrics.members.map fun m ↦ (m.1, m.2.toJson)) := by
    refine ⟨List.pairwise_map.mpr metrics.increasing, fun m hm ↦ ?_⟩
    obtain ⟨m', -, rfl⟩ := List.mem_map.mp hm
    exact Number.normal_toJson m'.2
  have h := Json.normalMembers_append [] _ (by rwa [List.nil_append])
  rw [Metrics.toJson, Json.normal, h, List.nil_append]

theorem VerifyVerdict.normal_toJson (verdict : VerifyVerdict) : verdict.toJson.normal = .obj [
    ("completed", .bool verdict.completed),
    ("error", .ofOption .str verdict.error),
    ("passed", .ofOption .bool verdict.passed)] := by
  have hpassed : (Json.ofOption .bool verdict.passed).normal = .ofOption .bool verdict.passed :=
    Json.normal_ofOption (fun _ ↦ rfl) _
  have herror : (Json.ofOption .str verdict.error).normal = .ofOption .str verdict.error :=
    Json.normal_ofOption (fun _ ↦ rfl) _
  simp +decide only [toJson, Json.normal, Json.normalMembers, Json.insertMember, hpassed, herror,
    if_true, if_false]

theorem RawEnvOutput.normal_toJson (raw : RawEnvOutput) : raw.toJson.normal = .obj [
    ("exit_code", .ofOption .int raw.exitCode),
    ("instruction", .str raw.instruction),
    ("stderr", .str raw.stderr),
    ("stdout", .str raw.stdout),
    ("working_dir", .ofOption .str raw.workingDir)] := by
  have hexit : (Json.ofOption .int raw.exitCode).normal = .ofOption .int raw.exitCode :=
    Json.normal_ofOption (fun _ ↦ rfl) _
  have hdir : (Json.ofOption .str raw.workingDir).normal = .ofOption .str raw.workingDir :=
    Json.normal_ofOption (fun _ ↦ rfl) _
  simp +decide only [toJson, Json.normal, Json.normalMembers, Json.insertMember, hexit, hdir,
    if_true, if_false]

theorem StepResult.normal_toJson (result : StepResult) : result.toJson.normal = .obj [
    ("info", result.info.toJson),
    ("metrics", result.metrics.toJson),
    ("raw_env_output", result.rawEnvOutput.toJson.normal),
    ("reward", result.reward.toJson),
    ("terminated", .bool result.terminated),
    ("truncated", .bool result.truncated),
    ("verdict", .ofOption (fun v ↦ v.toJson.normal) result.verdict)] := by
  have hverdict : (Json.ofOption VerifyVerdict.toJson result.verdict).normal =
      .ofOption (fun v ↦ v.toJson.normal) result.verdict := by
    cases result.verdict <;> rfl
  simp +decide only [toJson, Json.normal, Json.normalMembers, Json.insertMember, hverdict,
    Info.normal_toJson, Metrics.normal_toJson, Number.normal_toJson, if_true, if_false]

/-! ## Identities -/

namespace Unicode

variable (u : Unicode)

def driftAuditString (command : Option String) (text : String) : String :=
  String.ofList (u.driftAuditCanonical text.toList (command.map String.toList))

/-- A step result with its output in drift-audit form. -/
def driftAudited (command : Option String) (result : StepResult) : StepResult :=
  { result with rawEnvOutput := { result.rawEnvOutput with
      stdout := u.driftAuditString command result.rawEnvOutput.stdout
      stderr := u.driftAuditString command result.rawEnvOutput.stderr } }

/-- `scrubbed_hash`. -/
def scrubbedHash (hexdigest : String → String) (command : Option String) (result : StepResult) :
    String :=
  hexdigest (serializeStepResult (u.driftAudited command result))

end Unicode

/-- One executed action of a rollout. -/
structure ChainStep where
  envAction : EnvAction
  stepResult : StepResult
  timedOut : Bool
  deriving DecidableEq

end HarnessTraining
