import HarnessTraining.Concurrency
import HarnessTraining.Config.Payload
import HarnessTraining.Env.Netcache.HeaderBytes
import HarnessTraining.Env.Netcache.Proxy
import HarnessTraining.Env.Netcache.UvPythonMirror
import HarnessTraining.Env.Teardown
import HarnessTraining.Llm.Transparency
import HarnessTraining.Policy.Ladder
import HarnessTraining.Replay.Drift
import HarnessTraining.Replay.Epochs
import HarnessTraining.Replay.Lockstep
import HarnessTraining.Replay.Panel
import HarnessTraining.Replay.Prefix
import HarnessTraining.Replay.Refinement
import HarnessTraining.Replay.VerifyCache
import HarnessTraining.Rollout.FirstAttempts
import HarnessTraining.Rollout.Ownership
import HarnessTraining.Rollout.Retries
import HarnessTraining.Rollout.RunIndex
import HarnessTraining.Rollout.TaskLock
import HarnessTraining.Scripts.Evaluate
import HarnessTraining.Trainer.Estimator
import HarnessTraining.Trainer.Promotion
import HarnessTraining.Trainer.Summary
import HarnessTraining.Worker
