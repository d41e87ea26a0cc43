import HarnessTraining.Library.Transitions
import Mathlib.Data.List.Basic

/-!
# The Docker session

`DockerShellSession` of `src/env/docker_shell.py`: `start`, `run` and `close`, called one after the
other, and the calls of Docker they make.  Each of those runs in a worker thread, which goes on when
its awaiter was cancelled or timed out; `_run_container_sync` is one thread with several calls.
`containers.run` creates, then starts.  Of Docker, the container of the session's name and the networks
that the session created are kept.

* `Shell.completes`, `Shell.fails` — the next call of a thread.
* `Shell.resume`, `Shell.expire`, `Shell.cancel` — what its awaiter does.
* `Shell.step` — what each event does.
-/

set_option autoImplicit false

namespace HarnessTraining

namespace DockerShell

/-! ## Docker -/

/-- What a call raises; all but the last are `DockerException`s. -/
inductive DockerError where
  | docker
  | notFound
  | imageNotFound
  /-- A connection that broke, or a call that was dropped before it ran. -/
  | other
  deriving DecidableEq

def DockerError.isDockerException : DockerError → Bool
  | .other => false
  | _ => true

inductive Reply where
  | container (id : ℕ)
  /-- Of a command, whether its exit code is zero. -/
  | exit (zero : Bool)
  | done
  deriving DecidableEq

/-- A thread that makes one call. -/
inductive DockerCall where
  | get
  | exec
  | remove (container : ℕ)
  | removeNetwork (network : ℕ)
  deriving DecidableEq

/-- The next operation of `_run_container_sync`; `pulled` after its `ImageNotFound`. -/
inductive RunPoint where
  /-- The test of `_managed_network_obj`. -/
  | network
  | createNetwork
  | create (pulled : Bool)
  | start (pulled : Bool) (container : ℕ)
  | pull
  deriving DecidableEq

inductive Thread where
  | running (point : RunPoint)
  | calling (call : DockerCall)
  | settled (result : Except DockerError Reply)
  deriving DecidableEq

def Thread.isSettled : Thread → Bool
  | .settled _ => true
  | _ => false

/-! ## The session -/

/-- What follows `_remove_managed_network`. -/
inductive After where
  | startFailed
  | setupFailed
  /-- `close` returns, or raises what its `try` raised. -/
  | closing (returns : Bool)
  deriving DecidableEq

/-- The await of the call in progress, with the thread. -/
inductive Task where
  | rest
  /-- `close` returned. -/
  | closed
  | containersRun (setup : Bool) (attempt thread : ℕ)
  | backoff (setup : Bool) (attempt : ℕ)
  | setup (container thread : ℕ)
  | setupRemove (thread : ℕ)
  /-- The best-effort pins that are left. -/
  | pins (left container thread : ℕ)
  | dropping (after : After) (thread : ℕ)
  | runGet (thread : ℕ)
  | runPin (container thread : ℕ)
  | runExec (container thread : ℕ)
  | runRemove (thread : ℕ)
  | closeGet (thread : ℕ)
  | closeRemove (thread : ℕ)
  deriving DecidableEq

/-- The session, its threads, and what Docker has of it. -/
structure Shell where
  started : Bool := false
  /-- `_managed_network_obj`. -/
  network : Option ℕ := none
  threads : List Thread := []
  task : Task := .rest
  container : Option ℕ := none
  networks : List ℕ := []
  fresh : ℕ := 0
  deriving DecidableEq

/-- One event. -/
inductive ShellEvent where
  /-- `start`, with a setup command or without. -/
  | start (setup : Bool)
  | run
  | close
  /-- The next operation of a thread succeeds; `zero` is of a command. -/
  | completes (thread : ℕ) (zero : Bool)
  | fails (thread : ℕ) (error : DockerError)
  /-- The await in progress returns, or raises. -/
  | resume
  /-- The await in progress times out. -/
  | expire
  /-- The call in progress is cancelled. -/
  | cancel
  deriving DecidableEq

def dockerInfraRetryBudget : ℕ := 5

namespace Shell

/-- `asyncio.to_thread`, and the await. -/
def spawn (s : Shell) (thread : Thread) (task : ℕ → Task) : Shell :=
  { s with threads := s.threads ++ [thread], task := task s.threads.length }

def setThread (s : Shell) (id : ℕ) (thread : Thread) : Shell :=
  { s with threads := s.threads.set id thread }

def setTask (s : Shell) (task : Task) : Shell := { s with task := task }

/-! ## The calls of a thread -/

/-- `except ImageNotFound` of `_run_container_sync`. -/
def runFailed (pulled : Bool) (error : DockerError) : Thread :=
  if error = .imageNotFound ∧ pulled = false then .running .pull else .settled (.error error)

/-- The next operation of a thread succeeds. -/
def completes (managed : Bool) (s : Shell) (id : ℕ) (zero : Bool) : Thread → Option Shell
  | .running .network =>
    some (s.setThread id (.running
      (if managed ∧ s.network = none then .createNetwork else .create false)))
  | .running .createNetwork =>
    some { s.setThread id (.running (.create false)) with
      networks := s.fresh :: s.networks
      network := some s.fresh
      fresh := s.fresh + 1 }
  | .running (.create pulled) =>
    -- the name of a container is in use, or it is not
    if s.container = none then
      some { s.setThread id (.running (.start pulled s.fresh)) with
        container := some s.fresh
        fresh := s.fresh + 1 }
    else none
  | .running (.start _ container) => some (s.setThread id (.settled (.ok (.container container))))
  | .running .pull => some (s.setThread id (.running (.create true)))
  | .calling .get => s.container.map fun container ↦
    s.setThread id (.settled (.ok (.container container)))
  | .calling .exec => some (s.setThread id (.settled (.ok (.exit zero))))
  | .calling (.remove container) =>
    if s.container = some container then
      some { s.setThread id (.settled (.ok .done)) with container := none }
    else none
  | .calling (.removeNetwork network) =>
    if network ∈ s.networks then
      some { s.setThread id (.settled (.ok .done)) with
        networks := s.networks.filter (· ≠ network) }
    else none
  | .settled _ => none

/-- Docker says that a thing is not there only if it is not. -/
def truthful (s : Shell) : DockerCall → Bool
  | .get => s.container = none
  | .exec => true
  | .remove container => s.container ≠ some container
  | .removeNetwork network => network ∉ s.networks

/-- The next operation of a thread fails. -/
def fails (s : Shell) (id : ℕ) (error : DockerError) : Thread → Option Shell
  | .running (.create pulled) | .running (.start pulled _) =>
    some (s.setThread id (runFailed pulled error))
  | .running _ => some (s.setThread id (.settled (.error error)))
  | .calling call =>
    if error = .notFound ∧ s.truthful call = false then none
    else some (s.setThread id (.settled (.error error)))
  | .settled _ => none

/-! ## The awaiter -/

/-- The rest of the caller of `_remove_managed_network`. -/
def finish (s : Shell) : After → Shell
  | .startFailed | .closing false => s.setTask .rest
  | .setupFailed => { s.setTask .rest with started := false }
  | .closing true => s.setTask .closed

/-- `_remove_managed_network`, up to its call. -/
def dropNetwork (s : Shell) (after : After) : Shell :=
  match s.network with
  | none => s.finish after
  | some network =>
    { s with network := none }.spawn (.calling (.removeNetwork network)) (.dropping after)

/-- The next of the best-effort pins. -/
def pin (s : Shell) (container : ℕ) : ℕ → Shell
  | 0 => s.setTask .rest
  | left + 1 => s.spawn (.calling .exec) (.pins left container)

/-- The rest of `start`, after its container is there. -/
def begun (s : Shell) (setup : Bool) (container : ℕ) : Shell :=
  if setup then { s with started := true }.spawn (.calling .exec) (.setup container)
  else { s with started := true }.pin container 3

/-- The awaited thread returned or raised. -/
def resume (s : Shell) : Task → Except DockerError Reply → Option Shell
  | .containersRun setup _ _, .ok (.container container) => some (s.begun setup container)
  | .containersRun setup attempt _, .error error =>
    some (if error.isDockerException ∧ attempt < dockerInfraRetryBudget + 1
      then s.setTask (.backoff setup attempt) else s.dropNetwork .startFailed)
  | .setup container _, .ok (.exit true) => some (s.pin container 3)
  | .setup container _, .ok (.exit false) | .setup container _, .error _ =>
    some (s.spawn (.calling (.remove container)) .setupRemove)
  | .setupRemove _, _ => some (s.dropNetwork .setupFailed)
  | .pins left container _, _ => some (s.pin container left)
  | .dropping after _, .ok _ => some (s.finish after)
  | .dropping after _, .error error =>
    some (if error.isDockerException then s.finish after else s.setTask .rest)
  | .runGet _, .ok (.container container) => some (s.spawn (.calling .exec) (.runPin container))
  | .runPin container _, _ => some (s.spawn (.calling .exec) (.runExec container))
  | .runRemove _, .ok _ => some { s.setTask .rest with started := false }
  | .runGet _, .error _ | .runExec _ _, _ | .runRemove _, .error _ => some (s.setTask .rest)
  | .closeGet _, .ok (.container container) =>
    some (s.spawn (.calling (.remove container)) .closeRemove)
  | .closeRemove _, .ok _ | .closeGet _, .error .notFound | .closeRemove _, .error .notFound =>
    some ({ s with started := false }.dropNetwork (.closing true))
  | .closeGet _, .error _ | .closeRemove _, .error _ => some (s.dropNetwork (.closing false))
  | _, _ => none

/-- `asyncio.wait_for` raises `TimeoutError`. -/
def expire (s : Shell) : Task → Option Shell
  | .containersRun _ _ _ => some (s.dropNetwork .startFailed)
  | .setup container _ => some (s.spawn (.calling (.remove container)) .setupRemove)
  | .setupRemove _ => some (s.dropNetwork .setupFailed)
  | .pins left container _ => some (s.pin container left)
  | .dropping _ _ => some (s.setTask .rest)
  | .runPin container _ => some (s.spawn (.calling .exec) (.runExec container))
  | .runExec container _ => some (s.spawn (.calling (.remove container)) .runRemove)
  | .closeRemove _ => some (s.dropNetwork (.closing false))
  | _ => none

/-- `asyncio.CancelledError`, which no `except Exception` sees. -/
def cancel (s : Shell) : Task → Option Shell
  | .rest | .closed | .closeGet _ | .closeRemove _ | .dropping (.closing _) _ => none
  | _ => some (s.setTask .rest)

/-- The thread that is awaited. -/
def awaited : Task → Option ℕ
  | .rest | .closed | .backoff _ _ => none
  | .containersRun _ _ thread | .setup _ thread | .setupRemove thread | .pins _ _ thread
  | .dropping _ thread | .runGet thread | .runPin _ thread | .runExec _ thread
  | .runRemove thread | .closeGet thread | .closeRemove thread => some thread

/-- No call is in progress. -/
def isIdle (s : Shell) : Bool := s.task = .rest ∨ s.task = .closed

/-- What an event does, or nothing if it cannot happen. -/
def step (managed : Bool) (s : Shell) : ShellEvent → Option Shell
  | .start setup =>
    if ¬s.isIdle then none
    else if s.started then some (s.setTask .rest)
    else some (s.spawn (.running .network) (.containersRun setup 1))
  | .run => if s.isIdle then some (s.spawn (.calling .get) .runGet) else none
  | .close =>
    if ¬s.isIdle then none
    else if s.started then some (s.spawn (.calling .get) .closeGet)
    else some (s.dropNetwork (.closing true))
  | .completes id zero => s.threads[id]?.bind (s.completes managed id zero)
  | .fails id error => s.threads[id]?.bind (s.fails id error)
  | .resume =>
    match s.task, (awaited s.task).bind (s.threads[·]?) with
    | .backoff setup attempt, _ =>
      some (s.spawn (.running .network) (.containersRun setup (attempt + 1)))
    | task, some (.settled result) => s.resume task result
    | _, _ => none
  | .expire => s.expire s.task
  | .cancel => s.cancel s.task

end Shell

end DockerShell

end HarnessTraining
