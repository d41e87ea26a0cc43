import HarnessTraining.Rollout.Certification

/-!
# Stored step results

`_deserialize` of `src/plugins/replay/step_cache.py`.  A row whose fields do not have the declared
types is not read.

* `deserialize_serialize` — a stored step result is read back as it was.
* `scrubbedHash_inj` — two results have the same drift-audit identity exactly when their drift-audit
  forms are the same.
-/

set_option autoImplicit false

namespace HarnessTraining

/-! ## Reading a row -/

/-- The arguments of a keyword call are all parameters of the record. -/
def knownKeys (keys : List String) (members : List (String × Json)) : Bool :=
  members.all fun m ↦ m.1 ∈ keys

/-- `RawEnvOutput(**data)`. -/
def RawEnvOutput.ofJson? (j : Json) : Option RawEnvOutput := do
  let members ← j.obj?
  if knownKeys ["instruction", "working_dir", "exit_code", "stdout", "stderr"] members then
    return {
      instruction := ← Json.fieldOr members "instruction" (some "") Json.str?
      workingDir := ← Json.fieldOr members "working_dir" (some none) (Json.orNull? Json.str?)
      exitCode := ← Json.fieldOr members "exit_code" (some none) (Json.orNull? Json.int?)
      stdout := ← Json.fieldOr members "stdout" (some "") Json.str?
      stderr := ← Json.fieldOr members "stderr" (some "") Json.str? }
  else none

/-- `VerifyVerdict(**data)`, with its validation. -/
def VerifyVerdict.ofJson? (j : Json) : Option VerifyVerdict := do
  let members ← j.obj?
  let completed ← Json.fieldOr members "completed" none Json.bool?
  let passed ← Json.fieldOr members "passed" none (Json.orNull? Json.bool?)
  let error ← Json.fieldOr members "error" none (Json.orNull? Json.str?)
  if knownKeys ["completed", "passed", "error"] members then
    if h : if completed then passed.isSome ∧ error = none else error.isSome ∧ passed = none then
      return ⟨completed, passed, error, h⟩
    else none
  else none

def Info.ofJson? (j : Json) : Option Info := do
  let members ← j.obj?
  if h : Json.Dictionary members then return ⟨members, h⟩ else none

def Metrics.ofJson? (j : Json) : Option Metrics := do
  let members ← (← j.obj?).mapM fun m ↦ (Number.ofJson? m.2).map (m.1, ·)
  if h : members.Pairwise fun m m' ↦ m.1 < m'.1 then return ⟨members, h⟩ else none

/-- `_deserialize`; `none` is an exception. -/
def deserialize (text : String) : Option StepResult := do
  let data ← (Json.loads text).bind Json.obj?
  return {
    rawEnvOutput := ← Json.fieldOr data "raw_env_output" none RawEnvOutput.ofJson?
    reward := ← Json.fieldOr data "reward" none Number.ofJson?
    terminated := ← Json.fieldOr data "terminated" none Json.bool?
    truncated := ← Json.fieldOr data "truncated" none Json.bool?
    info := ← Json.fieldOr data "info" none Info.ofJson?
    metrics := ← Json.fieldOr data "metrics" none Metrics.ofJson?
    verdict := ← Json.fieldOr data "verdict" none (Json.orNull? VerifyVerdict.ofJson?) }

/-! ## The round trip -/

theorem RawEnvOutput.ofJson?_toJson (raw : RawEnvOutput) :
    RawEnvOutput.ofJson? raw.toJson.normal = some raw := by
  have hexit : Json.orNull? Json.int? (.ofOption .int raw.exitCode) = some raw.exitCode :=
    Json.orNull?_ofOption .int Json.int? (fun _ ↦ ⟨rfl, by simp⟩) _
  have hdir : Json.orNull? Json.str? (.ofOption .str raw.workingDir) = some raw.workingDir :=
    Json.orNull?_ofOption .str Json.str? (fun _ ↦ ⟨rfl, by simp⟩) _
  rw [RawEnvOutput.normal_toJson]
  simp +decide [Json.obj?, RawEnvOutput.ofJson?, knownKeys, Json.fieldOr, List.lookup_cons, hexit, hdir,
    Json.str?]

theorem VerifyVerdict.ofJson?_toJson (verdict : VerifyVerdict) :
    VerifyVerdict.ofJson? verdict.toJson.normal = some verdict := by
  have hpassed : Json.orNull? Json.bool? (.ofOption .bool verdict.passed) = some verdict.passed :=
    Json.orNull?_ofOption .bool Json.bool? (fun _ ↦ ⟨rfl, by simp⟩) _
  have herror : Json.orNull? Json.str? (.ofOption .str verdict.error) = some verdict.error :=
    Json.orNull?_ofOption .str Json.str? (fun _ ↦ ⟨rfl, by simp⟩) _
  rw [VerifyVerdict.normal_toJson]
  simp +decide [VerifyVerdict.ofJson?, Json.obj?, knownKeys, Json.fieldOr, List.lookup_cons, hpassed,
    herror, Json.bool?, verdict.valid]

theorem Info.ofJson?_toJson (info : Info) : Info.ofJson? info.toJson = some info := by
  simp [Info.ofJson?, Info.toJson, Json.obj?, info.dictionary]

theorem Metrics.ofJson?_toJson (metrics : Metrics) : Metrics.ofJson? metrics.toJson = some metrics := by
  have hmembers : (metrics.members.map fun m ↦ (m.1, m.2.toJson)).mapM
      (fun m : String × Json ↦ (Number.ofJson? m.2).map (m.1, ·)) = some metrics.members := by
    induction metrics.members with
    | nil => rfl
    | cons m members ih => simp [ih, Number.ofJson?_toJson]
  simp only [Metrics.ofJson?, Metrics.toJson, Json.obj?, Option.bind_eq_bind, Option.bind_some,
    hmembers]
  rw [dif_pos metrics.increasing]
  rfl

/-- **The round trip.**  A stored step result is read back as it was. -/
theorem deserialize_serialize (result : StepResult) :
    deserialize (serializeStepResult result) = some result := by
  have hverdict : Json.orNull? VerifyVerdict.ofJson?
      (.ofOption (fun v ↦ v.toJson.normal) result.verdict) = some result.verdict := by
    refine Json.orNull?_ofOption _ _ (fun v ↦ ⟨VerifyVerdict.ofJson?_toJson v, ?_⟩) _
    rw [VerifyVerdict.normal_toJson]
    simp
  have hfield {α : Type} (key : String) (members : List (String × Json)) (read : Json → Option α)
      (j : Json) (hlookup : members.lookup key = some j) :
      Json.fieldOr members key none read = read j := by
    rw [Json.fieldOr, hlookup]
  rw [deserialize, serializeStepResult, Json.loads_dumps, Option.bind_some,
    StepResult.normal_toJson, Json.obj?]
  simp only [Option.bind_eq_bind, Option.bind_some]
  rw [hfield "raw_env_output" _ _ _ rfl, hfield "reward" _ _ _ rfl, hfield "terminated" _ _ _ rfl,
    hfield "truncated" _ _ _ rfl, hfield "info" _ _ _ rfl, hfield "metrics" _ _ _ rfl,
    hfield "verdict" _ _ _ rfl, RawEnvOutput.ofJson?_toJson, Number.ofJson?_toJson,
    Info.ofJson?_toJson, Metrics.ofJson?_toJson, hverdict]
  rfl

theorem serializeStepResult_inj {result result' : StepResult}
    (h : serializeStepResult result = serializeStepResult result') : result = result' :=
  Option.some_inj.mp (by rw [← deserialize_serialize, ← deserialize_serialize, h])

/-- **The drift-audit identity** tells apart what its form tells apart. -/
theorem scrubbedHash_inj {u : Unicode} {hexdigest : String → String}
    (hinjective : Function.Injective hexdigest) {command : Option String}
    {result result' : StepResult} :
    u.scrubbedHash hexdigest command result = u.scrubbedHash hexdigest command result' ↔
      u.driftAudited command result = u.driftAudited command result' :=
  ⟨fun h ↦ serializeStepResult_inj (hinjective h), fun h ↦ by rw [Unicode.scrubbedHash, h]; rfl⟩

end HarnessTraining
