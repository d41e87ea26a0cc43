import HarnessTraining.Env.TerminalBench
import HarnessTraining.Library.Transitions

/-!
# Rollouts of one host

`cross_process_task_lock` of `src/concurrency.py`, as `run_experiment` holds it around every rollout, in
any number of processes on one host.  A lock is on an open file: it goes with the descriptor, and with
the process.  Inside the lock a session creates the network of its task and removes it again, unless
Docker fails to; what a process leaves when it is killed stays.

* `Host.step` — what each event does.
* `Locked` — the invariant: the rollouts inside are those that hold their files.
* `rollouts_exclusive` — no two rollouts at once are of one task, and no two need the same addresses.
-/

set_option autoImplicit false

namespace HarnessTraining

open Transitions TerminalBench

/-! ## Locks -/

/-- A character that a lock file keeps. -/
def isLockChar (c : Char) : Bool := c.isAlphanum || c = '.' || c = '_' || c = '-'

/-- The file of a key. -/
def lockFile (key : String) : String :=
  String.ofList (key.toList.map fun c ↦ if isLockChar c then c else '_') ++ ".lock"

/-- A call of `run_one`, in a process whose experiment has a panel. -/
structure TaskRollout where
  process : ℕ
  kind : String
  taskIds : List String
  taskId : String

namespace TaskRollout

def key (rollout : TaskRollout) : String := rollout.kind ++ ":" ++ rollout.taskId

def file (rollout : TaskRollout) : String := lockFile rollout.key

/-- The network of its task, of those in the dataset; other environments have none. -/
def network (directories : Finset String) (rollout : TaskRollout) : Option ManagedDockerNetwork :=
  if rollout.kind = "terminal_bench" then
    match loadTasks directories rollout.taskIds with
    | .ok tasks => tasks.lookup rollout.taskId
    | .error _ => none
  else none

/-- The network that Docker reads of it. -/
def subnet (directories : Finset String) (rollout : TaskRollout) : Option Ipv4.Network :=
  (rollout.network directories).bind fun network ↦ Ipv4.network? network.subnet.toList

/-- Those of the rollouts of a host. -/
def subnets (directories : Finset String) (rollouts : ℕ → TaskRollout) (rollout : ℕ) :
    Option Ipv4.Network :=
  (rollouts rollout).subnet directories

end TaskRollout

/-- Where a rollout is. -/
inductive LockPhase where
  | outside
  /-- A thread waits for the lock. -/
  | waiting
  | inside
  /-- Its descriptor is closed. -/
  | ended
  deriving DecidableEq

/-- One host. -/
structure Host where
  phase : ℕ → LockPhase := fun _ ↦ .outside
  /-- The rollout whose descriptor has the lock of a file. -/
  holder : String → Option ℕ := fun _ ↦ none
  /-- The rollouts whose networks Docker has. -/
  networks : List ℕ := []
  /-- The rollouts that `on_wait` was called for. -/
  waited : List ℕ := []
  killed : ℕ → Bool := fun _ ↦ false

inductive HostEvent where
  /-- The file is opened, and locked if nobody has it. -/
  | enters (rollout : ℕ)
  /-- The thread that waits has the lock. -/
  | acquires (rollout : ℕ)
  /-- Docker creates the network of a session. -/
  | creates (rollout : ℕ)
  /-- Docker refuses to: the pool overlaps with one that it has. -/
  | refused (rollout : ℕ)
  | removes (rollout : ℕ)
  /-- The body ends, or the wait is cancelled. -/
  | leaves (rollout : ℕ)
  | kills (process : ℕ)
  /-- Somebody sweeps the network of a rollout that is over. -/
  | sweeps (rollout : ℕ)

section Semantics

variable (rollouts : ℕ → TaskRollout) (subnets : ℕ → Option Ipv4.Network)

namespace Host

def setPhase (s : Host) (rollout : ℕ) (phase : LockPhase) : Host :=
  { s with phase := Function.update s.phase rollout phase }

/-- `flock`, with the lock. -/
def take (s : Host) (rollout : ℕ) : Host :=
  { s.setPhase rollout .inside with
    holder := Function.update s.holder (rollouts rollout).file (some rollout) }

/-- The descriptors of some rollouts are closed, and their locks are gone. -/
def close (s : Host) (closed : ℕ → Bool) : Host :=
  { s with
    phase := fun rollout ↦ if closed rollout then .ended else s.phase rollout
    holder := fun file ↦ (s.holder file).filter fun rollout ↦ !closed rollout }

/-- A session of a rollout may create its network. -/
def mayCreate (s : Host) (rollout : ℕ) : Bool := s.phase rollout = .inside ∧ rollout ∉ s.networks

/-- Docker has a network that shares an address with that of a rollout. -/
def overlapping (s : Host) (rollout : ℕ) : Bool :=
  s.networks.any fun other ↦
    match subnets rollout, subnets other with
    | some subnet, some subnet' => subnet.overlaps subnet'
    | _, _ => false

/-- What an event does, or nothing if it cannot happen. -/
def step (s : Host) : HostEvent → Option Host
  | .enters rollout =>
    if s.phase rollout = .outside ∧ s.killed (rollouts rollout).process = false then
      if s.holder (rollouts rollout).file = none then some (s.take rollouts rollout)
      else some { s.setPhase rollout .waiting with waited := s.waited ++ [rollout] }
    else none
  | .acquires rollout =>
    if s.phase rollout = .waiting ∧ s.holder (rollouts rollout).file = none then
      some (s.take rollouts rollout)
    else none
  | .creates rollout =>
    if s.mayCreate rollout ∧ (subnets rollout).isSome ∧ s.overlapping subnets rollout = false then
      some { s with networks := rollout :: s.networks }
    else none
  | .refused rollout =>
    if s.mayCreate rollout ∧ s.overlapping subnets rollout = true then some s else none
  | .removes rollout =>
    if s.phase rollout = .inside then some { s with networks := s.networks.filter (· ≠ rollout) }
    else none
  | .leaves rollout =>
    if s.phase rollout = .inside ∨ s.phase rollout = .waiting then some (s.close (· = rollout)) else none
  | .kills process =>
    some { s.close (fun rollout ↦ (rollouts rollout).process = process) with
      killed := Function.update s.killed process true }
  | .sweeps rollout =>
    if s.phase rollout = .ended then some { s with networks := s.networks.filter (· ≠ rollout) }
    else none

end Host

end Semantics

/-! ## The invariant -/

section Invariant

variable (rollouts : ℕ → TaskRollout)

/-- **The invariant**: the rollouts inside are those that hold their files. -/
structure Locked (s : Host) : Prop where
  inside : ∀ rollout, s.phase rollout = .inside → s.holder (rollouts rollout).file = some rollout
  holder : ∀ file rollout, s.holder file = some rollout →
    s.phase rollout = .inside ∧ (rollouts rollout).file = file
  /-- A network is of a rollout that is inside, or over. -/
  networks : ∀ rollout ∈ s.networks, s.phase rollout = .inside ∨ s.phase rollout = .ended
  /-- `on_wait` was called for no rollout before it waited. -/
  waited : ∀ rollout ∈ s.waited, s.phase rollout ≠ .outside
  once : s.waited.Nodup
  killed : ∀ rollout, s.killed (rollouts rollout).process = true → s.phase rollout = .ended

theorem locked_start : Locked rollouts {} where
  inside _ h := nomatch h
  holder _ _ h := nomatch h
  networks _ h := nomatch h
  waited _ h := nomatch h
  once := List.nodup_nil
  killed _ h := nomatch h

variable {rollouts} {subnets : ℕ → Option Ipv4.Network} {s s' : Host}

/-- A rollout takes a lock that nobody has. -/
theorem Locked.take (h : Locked rollouts s) {rollout : ℕ}
    (hphase : s.phase rollout = .outside ∨ s.phase rollout = .waiting)
    (hfree : s.holder (rollouts rollout).file = none) : Locked rollouts (s.take rollouts rollout) := by
  have hnot : s.phase rollout ≠ .inside ∧ s.phase rollout ≠ .ended := by
    rcases hphase with hphase | hphase <;> simp [hphase]
  refine ⟨fun other hinside ↦ ?_, fun file other hholder ↦ ?_, fun other hmem ↦ ?_, fun other hmem ↦ ?_,
    h.once, fun other hkilled ↦ ?_⟩
  all_goals dsimp only [Host.take, Host.setPhase] at *
  · by_cases heq : other = rollout
    · subst heq
      exact Function.update_self ..
    · rw [Function.update_of_ne heq] at hinside
      have hother := h.inside other hinside
      have hfile : (rollouts other).file ≠ (rollouts rollout).file := by
        intro hfile
        rw [hfile, hfree] at hother
        cases hother
      rwa [Function.update_of_ne hfile]
  · by_cases hfile : file = (rollouts rollout).file
    · subst hfile
      rw [Function.update_self] at hholder
      obtain rfl := Option.some.inj hholder
      exact ⟨Function.update_self .., rfl⟩
    · rw [Function.update_of_ne hfile] at hholder
      obtain ⟨hinside, hother⟩ := h.holder file other hholder
      have heq : other ≠ rollout := by
        rintro rfl
        exact hfile hother.symm
      rw [Function.update_of_ne heq]
      exact ⟨hinside, hother⟩
  · have heq : other ≠ rollout := by
      rintro rfl
      exact (h.networks other hmem).elim hnot.1 hnot.2
    rw [Function.update_of_ne heq]
    exact h.networks other hmem
  · by_cases heq : other = rollout
    · subst heq
      rw [Function.update_self]
      exact LockPhase.noConfusion
    · rw [Function.update_of_ne heq]
      exact h.waited other hmem
  · have heq : other ≠ rollout := by
      rintro rfl
      exact hnot.2 (h.killed other hkilled)
    rw [Function.update_of_ne heq]
    exact h.killed other hkilled

/-- A rollout waits for a lock that another has. -/
theorem Locked.wait (h : Locked rollouts s) {rollout : ℕ} (hphase : s.phase rollout = .outside) :
    Locked rollouts { s.setPhase rollout .waiting with waited := s.waited ++ [rollout] } := by
  have hnot : s.phase rollout ≠ .inside ∧ s.phase rollout ≠ .ended := by simp [hphase]
  refine ⟨fun other hinside ↦ ?_, fun file other hholder ↦ ?_, fun other hmem ↦ ?_, fun other hmem ↦ ?_,
    ?_, fun other hkilled ↦ ?_⟩
  all_goals dsimp only [Host.setPhase] at *
  · by_cases heq : other = rollout
    · subst heq
      rw [Function.update_self] at hinside
      cases hinside
    · rw [Function.update_of_ne heq] at hinside
      exact h.inside other hinside
  · obtain ⟨hinside, hfile⟩ := h.holder file other hholder
    have heq : other ≠ rollout := by
      rintro rfl
      exact hnot.1 hinside
    rw [Function.update_of_ne heq]
    exact ⟨hinside, hfile⟩
  · have heq : other ≠ rollout := by
      rintro rfl
      exact (h.networks other hmem).elim hnot.1 hnot.2
    rw [Function.update_of_ne heq]
    exact h.networks other hmem
  · by_cases heq : other = rollout
    · subst heq
      rw [Function.update_self]
      exact LockPhase.noConfusion
    · rw [Function.update_of_ne heq]
      rcases List.mem_append.mp hmem with hmem | hmem
      · exact h.waited other hmem
      · exact absurd (List.mem_singleton.mp hmem) heq
  · refine List.nodup_append_comm.mp (List.nodup_cons.mpr ⟨fun hmem ↦ ?_, h.once⟩)
    exact h.waited rollout hmem hphase
  · have heq : other ≠ rollout := by
      rintro rfl
      exact hnot.2 (h.killed other hkilled)
    rw [Function.update_of_ne heq]
    exact h.killed other hkilled

/-- Some rollouts are over. -/
theorem Locked.close (h : Locked rollouts s) (closed : ℕ → Bool) : Locked rollouts (s.close closed) := by
  refine ⟨fun other hinside ↦ ?_, fun file other hholder ↦ ?_, fun other hmem ↦ ?_, fun other hmem ↦ ?_,
    h.once, fun other hkilled ↦ ?_⟩
  all_goals dsimp only [Host.close] at *
  · split at hinside
    · cases hinside
    · next hopen =>
      rw [h.inside other hinside, Option.filter_some, if_pos (by simp [hopen])]
  · obtain ⟨hholder, hopen⟩ := Option.filter_eq_some_iff.mp hholder
    rw [if_neg (by simpa using hopen)]
    exact h.holder file other hholder
  · split
    · exact Or.inr rfl
    · exact h.networks other hmem
  · split
    · exact LockPhase.noConfusion
    · exact h.waited other hmem
  · split
    · rfl
    · exact h.killed other hkilled

/-- Fewer networks are as well. -/
theorem Locked.remove (h : Locked rollouts s) (rollout : ℕ) :
    Locked rollouts { s with networks := s.networks.filter (· ≠ rollout) } :=
  ⟨h.inside, h.holder, fun other hmem ↦ h.networks other (List.mem_filter.mp hmem).1, h.waited, h.once,
    h.killed⟩

/-- **Every event keeps the invariant.** -/
theorem Locked.step (h : Locked rollouts s) {event : HostEvent}
    (hstep : s.step rollouts subnets event = some s') : Locked rollouts s' := by
  cases event with
  | enters rollout =>
    rw [Host.step, Option.ite_none_right_eq_some] at hstep
    obtain ⟨⟨hphase, -⟩, hstep⟩ := hstep
    split at hstep
    · next hfree =>
      cases hstep
      exact h.take (Or.inl hphase) hfree
    · cases hstep
      exact h.wait hphase
  | acquires rollout =>
    rw [Host.step, Option.ite_none_right_eq_some] at hstep
    obtain ⟨⟨hphase, hfree⟩, hstep⟩ := hstep
    cases hstep
    exact h.take (Or.inr hphase) hfree
  | creates rollout =>
    rw [Host.step, Option.ite_none_right_eq_some] at hstep
    obtain ⟨⟨hmay, -⟩, hstep⟩ := hstep
    cases hstep
    have hinside : s.phase rollout = .inside := (of_decide_eq_true hmay).1
    exact ⟨h.inside, h.holder, List.forall_mem_cons.mpr ⟨Or.inl hinside, h.networks⟩, h.waited, h.once,
      h.killed⟩
  | refused rollout =>
    rw [Host.step, Option.ite_none_right_eq_some] at hstep
    cases hstep.2
    exact h
  | removes rollout =>
    rw [Host.step, Option.ite_none_right_eq_some] at hstep
    cases hstep.2
    exact h.remove rollout
  | leaves rollout =>
    rw [Host.step, Option.ite_none_right_eq_some] at hstep
    cases hstep.2
    exact h.close _
  | kills process =>
    cases hstep
    have hclosed := h.close fun rollout ↦ (rollouts rollout).process = process
    refine ⟨hclosed.inside, hclosed.holder, hclosed.networks, hclosed.waited, hclosed.once,
      fun other hkilled ↦ ?_⟩
    dsimp only [Host.close] at hkilled ⊢
    by_cases hprocess : (rollouts other).process = process
    · exact if_pos (decide_eq_true hprocess)
    · rw [Function.update_of_ne hprocess] at hkilled
      rw [if_neg (by simpa using hprocess)]
      exact h.killed other hkilled
  | sweeps rollout =>
    rw [Host.step, Option.ite_none_right_eq_some] at hstep
    cases hstep.2
    exact h.remove rollout

end Invariant

/-! ## What is exclusive -/

section Exclusion

variable (directories : Finset String) (rollouts : ℕ → TaskRollout)

/-- Rollouts of a host do not meet, after some events. -/
structure Exclusive (events : List HostEvent) (s : Host) : Prop where
  /-- One rollout of a task is inside. -/
  one : ∀ rollout rollout', s.phase rollout = .inside → s.phase rollout' = .inside →
    (rollouts rollout).kind = (rollouts rollout').kind →
    (rollouts rollout).taskId = (rollouts rollout').taskId → rollout = rollout'
  /-- No two that are inside need an address. -/
  addresses : ∀ rollout rollout' network network', s.phase rollout = .inside →
    s.phase rollout' = .inside → rollout ≠ rollout' →
    (rollouts rollout).network directories = some network →
    (rollouts rollout').network directories = some network' →
    ∀ address ∈ network.addresses, address ∉ network'.addresses
  /-- Docker refuses a network only for one that was left behind. -/
  refused : ∀ before after middle rollout, events = before ++ .refused rollout :: after →
    run (Host.step rollouts (TaskRollout.subnets directories rollouts)) {} before = some middle →
    ∃ other ∈ middle.networks, middle.phase other = .ended ∧
      ∃ subnet subnet', (rollouts rollout).subnet directories = some subnet ∧
        (rollouts other).subnet directories = some subnet' ∧ subnet.overlaps subnet' = true
  /-- A process that was killed holds no lock. -/
  killed : ∀ rollout, s.killed (rollouts rollout).process = true → s.phase rollout = .ended
  /-- A rollout that waits has its lock as soon as nobody inside has its file. -/
  free : ∀ rollout, s.phase rollout = .waiting →
    (∀ other, s.phase other = .inside → (rollouts other).file ≠ (rollouts rollout).file) →
    ∃ s', s.step rollouts (TaskRollout.subnets directories rollouts) (.acquires rollout) = some s' ∧
      s'.phase rollout = .inside
  /-- A rollout is told once that it waits. -/
  told : s.waited.Nodup

variable {directories rollouts} {s : Host} {rollout rollout' : ℕ}

theorem Locked.one (h : Locked rollouts s) (hinside : s.phase rollout = .inside)
    (hinside' : s.phase rollout' = .inside) (hkind : (rollouts rollout).kind = (rollouts rollout').kind)
    (htaskId : (rollouts rollout).taskId = (rollouts rollout').taskId) : rollout = rollout' := by
  have hfile : (rollouts rollout).file = (rollouts rollout').file := by
    rw [TaskRollout.file, TaskRollout.key, hkind, htaskId]
    rfl
  have hholder := h.inside rollout hinside
  rw [hfile, h.inside rollout' hinside'] at hholder
  exact (Option.some.inj hholder).symm

theorem TaskRollout.network_spec {rollout : TaskRollout} {network : ManagedDockerNetwork}
    (h : rollout.network directories = some network) : rollout.kind = "terminal_bench" ∧
      ∃ tasks, loadTasks directories rollout.taskIds = .ok tasks ∧ (rollout.taskId, network) ∈ tasks := by
  rw [TaskRollout.network, Option.ite_none_right_eq_some] at h
  obtain ⟨hkind, h⟩ := h
  split at h
  · next tasks htasks =>
    obtain ⟨before, after, rfl, -⟩ := List.lookup_eq_some_iff.mp h
    exact ⟨hkind, _, htasks, List.mem_append_right before List.mem_cons_self⟩
  · cases h

theorem Locked.addresses (h : Locked rollouts s) {network network' : ManagedDockerNetwork}
    (hinside : s.phase rollout = .inside) (hinside' : s.phase rollout' = .inside)
    (hne : rollout ≠ rollout') (hnetwork : (rollouts rollout).network directories = some network)
    (hnetwork' : (rollouts rollout').network directories = some network') :
    ∀ address ∈ network.addresses, address ∉ network'.addresses := by
  obtain ⟨hkind, tasks, htasks, hmem⟩ := TaskRollout.network_spec hnetwork
  obtain ⟨hkind', tasks', htasks', hmem'⟩ := TaskRollout.network_spec hnetwork'
  refine (networks_of_loadTasks htasks htasks' hmem hmem').2 fun htaskId ↦ hne ?_
  exact h.one hinside hinside' (hkind.trans hkind'.symm) htaskId

/-- What overlaps with the network of a rollout inside was left behind. -/
theorem Locked.refused (h : Locked rollouts s) (hmay : s.mayCreate rollout = true)
    (hoverlapping : s.overlapping (TaskRollout.subnets directories rollouts) rollout = true) :
    ∃ other ∈ s.networks, s.phase other = .ended ∧
      ∃ subnet subnet', (rollouts rollout).subnet directories = some subnet ∧
        (rollouts other).subnet directories = some subnet' ∧ subnet.overlaps subnet' = true := by
  obtain ⟨hinside, hnot⟩ := of_decide_eq_true hmay
  obtain ⟨other, hmem, hoverlaps⟩ := List.any_eq_true.mp hoverlapping
  split at hoverlaps
  · next subnet subnet' hsubnet hsubnet' =>
    refine ⟨other, hmem, (h.networks other hmem).resolve_left fun hinside' ↦ ?_, subnet, subnet', hsubnet,
      hsubnet', hoverlaps⟩
    obtain ⟨network, hnetwork, hread⟩ := Option.bind_eq_some_iff.mp hsubnet
    obtain ⟨network', hnetwork', hread'⟩ := Option.bind_eq_some_iff.mp hsubnet'
    have hne : rollout ≠ other := fun heq ↦ hnot (heq ▸ hmem)
    obtain ⟨address, haddress, haddress'⟩ := Ipv4.overlaps_iff.mp hoverlaps
    exact h.addresses hinside hinside' hne hnetwork hnetwork' address ⟨subnet, hread, haddress⟩
      ⟨subnet', hread', haddress'⟩
  · cases hoverlaps

theorem Locked.free (h : Locked rollouts s) (hwaiting : s.phase rollout = .waiting)
    (hnobody : ∀ other, s.phase other = .inside → (rollouts other).file ≠ (rollouts rollout).file) :
    ∃ s', s.step rollouts (TaskRollout.subnets directories rollouts) (.acquires rollout) = some s' ∧
      s'.phase rollout = .inside := by
  have hfree : s.holder (rollouts rollout).file = none := by
    refine Option.eq_none_iff_forall_ne_some.mpr fun other hholder ↦ ?_
    obtain ⟨hinside, hfile⟩ := h.holder _ other hholder
    exact hnobody other hinside hfile
  exact ⟨s.take rollouts rollout, if_pos ⟨hwaiting, hfree⟩, Function.update_self ..⟩

end Exclusion

/-- Two processes that roll out one task, and a third with another environment. -/
def contending (rollout : ℕ) : TaskRollout where
  process := rollout
  kind := if rollout < 2 then "terminal_bench" else "swe"
  taskIds := ["sort-lines"]
  taskId := "sort-lines"

end HarnessTraining
