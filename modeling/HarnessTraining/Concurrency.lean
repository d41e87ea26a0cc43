import HarnessTraining.Library.Transitions
import Mathlib.Algebra.Order.Field.Rat
import Mathlib.Data.List.Chain
import Mathlib.Tactic.Linarith
import Mathlib.Tactic.Ring

/-!
# The admission limiter

`CpuConcurrencyLimiter` of `src/concurrency.py`: a semaphore bounds the tasks that are inside, and a
lock admits them one by one, not while the machine is busy and not too soon after one another.

What runs between two awaits of a task is one event.  `asyncio` gives a permit to one of the calls
that wait for it, at some moment at which there is one, and the lock likewise; a sleep ends no sooner
than it was asked to.  A task is cancelled at an await, or the call that it awaits raises.

* `Safe` — the invariant;
* `limiter_safe` — what it comes to in every interleaving.
-/

set_option autoImplicit false

namespace HarnessTraining

open Transitions

def CPU_TARGET_PERCENT : ℚ := 85

def ADMISSION_INTERVAL_SEC : ℚ := 5

/-- Where a task is in the admission section. -/
inductive AdmissionStage where
  /-- It waits for a sample of the CPU. -/
  | sampling
  /-- The CPU lets it pass. -/
  | pacing
  | sleeping (wake : ℚ)
  /-- The interval is over. -/
  | admitting
  deriving DecidableEq

/-- Where a task waits on its way in. -/
inductive AdmissionAwait where
  | slot
  | lock
  | sample
  | sleep (wake : ℚ)

/-- A limiter with the tasks at it.  A task holds a permit from the moment it waits for the lock. -/
structure CpuConcurrencyLimiter (ι : Type) where
  /-- `_slots`. -/
  value : ℕ
  /-- `_admission`. -/
  locked : Bool := false
  /-- `_active`. -/
  active : ℤ := 0
  /-- `_last_admission`. -/
  lastAdmission : ℚ := 0
  /-- The clock of the loop. -/
  now : ℚ
  /-- The tasks that wait for a permit. -/
  queued : List ι := []
  /-- The tasks that wait for the lock. -/
  waiting : List ι := []
  /-- The tasks in the admission section. -/
  admission : List (ι × AdmissionStage) := []
  inside : List ι := []
  /-- The moments of the admissions so far. -/
  admissions : List ℚ := []

namespace CpuConcurrencyLimiter

variable {ι : Type}

/-- A fresh limiter. -/
def new (ι : Type) (ceiling : ℕ) (now : ℚ) : CpuConcurrencyLimiter ι where
  value := ceiling
  now := now

inductive Event (ι : Type) where
  | enter (task : ι)
  /-- A waiting `acquire` gets a permit. -/
  | granted (task : ι)
  /-- The lock is taken. -/
  | entered (task : ι)
  | sampled (task : ι) (cpuPercent : ℚ)
  | paced (task : ι)
  | woken (task : ι) (wake : ℚ)
  | admitted (task : ι)
  | leave (task : ι)
  /-- A task is cancelled on its way in. -/
  | cancelled (task : ι) (await : AdmissionAwait)
  | passed (seconds : ℚ)

/-- The condition of the sampling loop, on `_active`. -/
def gate (s : CpuConcurrencyLimiter ι) : AdmissionStage := if s.active = 0 then .pacing else .sampling

/-- A task of the section goes on to another stage. -/
def move [DecidableEq ι] (s : CpuConcurrencyLimiter ι) (task : ι) (stage stage' : AdmissionStage) :
    CpuConcurrencyLimiter ι :=
  { s with admission := (task, stage') :: s.admission.erase (task, stage) }

/-- A task leaves the section by an exception: the lock and the permit are given back. -/
def abandon [DecidableEq ι] (s : CpuConcurrencyLimiter ι) (task : ι) (stage : AdmissionStage) :
    CpuConcurrencyLimiter ι :=
  { s with
    value := s.value + 1
    locked := false
    admission := s.admission.erase (task, stage) }

def step [DecidableEq ι] (s : CpuConcurrencyLimiter ι) : Event ι → Option (CpuConcurrencyLimiter ι)
  | .enter task => some { s with queued := task :: s.queued }
  | .granted task =>
    if task ∈ s.queued ∧ 0 < s.value then
      some { s with
        value := s.value - 1
        queued := s.queued.erase task
        waiting := task :: s.waiting }
    else none
  | .entered task =>
    if task ∈ s.waiting ∧ s.locked = false then
      some { s with
        locked := true
        waiting := s.waiting.erase task
        admission := (task, s.gate) :: s.admission }
    else none
  | .sampled task cpuPercent =>
    if (task, .sampling) ∈ s.admission then
      some (s.move task .sampling (if CPU_TARGET_PERCENT ≤ cpuPercent then s.gate else .pacing))
    else none
  | .paced task =>
    if (task, .pacing) ∈ s.admission then
      let delay := s.lastAdmission + ADMISSION_INTERVAL_SEC - s.now
      some (s.move task .pacing (if 0 < delay then .sleeping (s.now + delay) else .admitting))
    else none
  | .woken task wake =>
    if (task, .sleeping wake) ∈ s.admission ∧ wake ≤ s.now then
      some (s.move task (.sleeping wake) .admitting)
    else none
  | .admitted task =>
    if (task, .admitting) ∈ s.admission then
      some { s with
        locked := false
        active := s.active + 1
        lastAdmission := s.now
        admission := s.admission.erase (task, .admitting)
        inside := task :: s.inside
        admissions := s.admissions ++ [s.now] }
    else none
  | .leave task =>
    if task ∈ s.inside then
      some { s with
        value := s.value + 1
        active := s.active - 1
        inside := s.inside.erase task }
    else none
  | .cancelled task .slot =>
    if task ∈ s.queued then some { s with queued := s.queued.erase task } else none
  | .cancelled task .lock =>
    if task ∈ s.waiting then
      some { s with value := s.value + 1, waiting := s.waiting.erase task }
    else none
  | .cancelled task .sample =>
    if (task, .sampling) ∈ s.admission then some (s.abandon task .sampling) else none
  | .cancelled task (.sleep wake) =>
    if (task, .sleeping wake) ∈ s.admission then some (s.abandon task (.sleeping wake)) else none
  | .passed seconds => if 0 ≤ seconds then some { s with now := s.now + seconds } else none

/-! ## The invariant -/

/-- The interval since the last admission is over when a stage is. -/
def Spaced (s : CpuConcurrencyLimiter ι) : AdmissionStage → Prop
  | .sleeping wake => s.lastAdmission + ADMISSION_INTERVAL_SEC ≤ wake
  | .admitting => s.lastAdmission + ADMISSION_INTERVAL_SEC ≤ s.now
  | _ => True

/-- The tasks that hold a permit and are not inside. -/
def pending (s : CpuConcurrencyLimiter ι) : ℕ := s.waiting.length + s.admission.length

/-- **The invariant.** -/
structure Safe (ceiling : ℕ) (s : CpuConcurrencyLimiter ι) : Prop where
  permits : s.value + (s.inside.length + s.pending) = ceiling
  mutex : s.admission.length = if s.locked then 1 else 0
  active : s.active = s.inside.length
  stages : ∀ x ∈ s.admission, s.Spaced x.2
  last : ∀ moment ∈ s.admissions, moment ≤ s.lastAdmission
  spaced : s.admissions.IsChain fun moment moment' ↦ moment + ADMISSION_INTERVAL_SEC ≤ moment'

section Steps

variable {ceiling : ℕ} {s s' : CpuConcurrencyLimiter ι} {task : ι} {stage stage' : AdmissionStage}

theorem new_safe (ceiling : ℕ) (now : ℚ) : Safe ceiling (new ι ceiling now) where
  permits := rfl
  mutex := rfl
  active := rfl
  stages _ hx := by cases hx
  last _ hmoment := by cases hmoment
  spaced := .nil

/-- A task in the section is alone there, and has the lock. -/
theorem Safe.alone (h : Safe ceiling s) {x : ι × AdmissionStage} (hx : x ∈ s.admission) :
    s.admission = [x] ∧ s.locked = true := by
  have hmutex := h.mutex
  split at hmutex
  · next hlocked =>
    obtain ⟨y, hy⟩ := List.length_eq_one_iff.mp hmutex
    rw [hy, List.mem_singleton] at hx
    exact ⟨hx ▸ hy, hlocked⟩
  · rw [List.length_eq_zero_iff.mp hmutex] at hx
    cases hx

/-- The section is empty when the lock is free. -/
theorem Safe.free (h : Safe ceiling s) (hfree : s.locked = false) : s.admission = [] := by
  have hmutex := h.mutex
  rw [hfree] at hmutex
  exact List.length_eq_zero_iff.mp hmutex

theorem spaced_gate (s s' : CpuConcurrencyLimiter ι) : s'.Spaced s.gate := by
  rw [gate]
  split <;> trivial

/-- Time passes. -/
theorem Safe.pass (h : Safe ceiling s) {seconds : ℚ} (hseconds : 0 ≤ seconds) :
    Safe ceiling { s with now := s.now + seconds } := by
  refine ⟨h.permits, h.mutex, h.active, fun x hx ↦ ?_, h.last, h.spaced⟩
  have hspaced := h.stages x hx
  obtain ⟨task, stage⟩ := x
  cases stage with
  | admitting =>
    rw [Spaced] at hspaced ⊢
    dsimp only
    linarith
  | _ => exact hspaced

variable [DecidableEq ι]

/-- A task of the section goes on. -/
theorem Safe.move (h : Safe ceiling s) (hx : (task, stage) ∈ s.admission)
    (hstage : s.Spaced stage') : Safe ceiling (s.move task stage stage') := by
  obtain ⟨halone, hlocked⟩ := h.alone hx
  have hmoved : (s.move task stage stage').admission = [(task, stage')] := by
    rw [CpuConcurrencyLimiter.move, halone, List.erase_cons_head]
  refine ⟨?_, ?_, h.active, ?_, h.last, h.spaced⟩
  · have hpermits := h.permits
    rw [pending, halone] at hpermits
    rw [pending, hmoved]
    exact hpermits
  · rw [hmoved]
    exact (if_pos hlocked).symm
  · rw [hmoved, List.forall_mem_singleton]
    exact hstage

/-- A task of the section is cancelled. -/
theorem Safe.abandon (h : Safe ceiling s) (hx : (task, stage) ∈ s.admission) :
    Safe ceiling (s.abandon task stage) := by
  obtain ⟨halone, -⟩ := h.alone hx
  have hleft : (s.abandon task stage).admission = [] := by
    rw [CpuConcurrencyLimiter.abandon, halone, List.erase_cons_head]
  refine ⟨?_, ?_, h.active, ?_, h.last, h.spaced⟩
  · have hpermits := h.permits
    rw [pending, halone, List.length_singleton] at hpermits
    rw [pending, hleft, List.length_nil]
    change s.value + 1 + (s.inside.length + (s.waiting.length + 0)) = ceiling
    omega
  · rw [hleft]
    rfl
  · rw [hleft]
    exact fun x hx ↦ by cases hx

theorem Safe.grant (h : Safe ceiling s) (hvalue : 0 < s.value) :
    Safe ceiling { s with
      value := s.value - 1
      queued := s.queued.erase task
      waiting := task :: s.waiting } := by
  refine ⟨?_, h.mutex, h.active, h.stages, h.last, h.spaced⟩
  have hpermits := h.permits
  rw [pending] at hpermits ⊢
  dsimp only
  rw [List.length_cons]
  omega

theorem Safe.enter (h : Safe ceiling s) (hwaiting : task ∈ s.waiting) (hfree : s.locked = false) :
    Safe ceiling { s with
      locked := true
      waiting := s.waiting.erase task
      admission := (task, s.gate) :: s.admission } := by
  have hnone := h.free hfree
  refine ⟨?_, ?_, h.active, ?_, h.last, h.spaced⟩
  · have hpermits := h.permits
    have hlength := List.length_erase_add_one hwaiting
    rw [pending, hnone, List.length_nil] at hpermits
    rw [pending, hnone, List.length_singleton]
    dsimp only
    omega
  · rw [hnone]
    rfl
  · rw [hnone, List.forall_mem_singleton]
    exact spaced_gate s _

/-- A task is let in. -/
theorem Safe.admit (h : Safe ceiling s) (hx : (task, .admitting) ∈ s.admission) :
    Safe ceiling { s with
      locked := false
      active := s.active + 1
      lastAdmission := s.now
      admission := s.admission.erase (task, .admitting)
      inside := task :: s.inside
      admissions := s.admissions ++ [s.now] } := by
  obtain ⟨halone, -⟩ := h.alone hx
  have hspaced : s.lastAdmission + ADMISSION_INTERVAL_SEC ≤ s.now := h.stages _ hx
  have hinterval : (0 : ℚ) ≤ ADMISSION_INTERVAL_SEC := by
    rw [ADMISSION_INTERVAL_SEC]
    norm_num
  refine ⟨?_, ?_, ?_, ?_, ?_, ?_⟩
  · have hpermits := h.permits
    rw [pending, halone, List.length_singleton] at hpermits
    rw [pending, halone, List.erase_cons_head, List.length_nil, List.length_cons]
    dsimp only
    omega
  · rw [halone, List.erase_cons_head]
    rfl
  · rw [h.active, List.length_cons]
    push_cast
    ring
  · rw [halone, List.erase_cons_head]
    exact fun x hx ↦ by cases hx
  · refine List.forall_mem_append.mpr ⟨fun moment hmoment ↦ ?_, ?_⟩
    · have := h.last moment hmoment
      dsimp only
      linarith
    · rw [List.forall_mem_singleton]
  · refine List.isChain_append.mpr ⟨h.spaced, .singleton _, fun moment hmoment moment' hnow ↦ ?_⟩
    have := h.last moment (List.mem_of_getLast? hmoment)
    obtain rfl : s.now = moment' := by simpa using hnow
    linarith

theorem Safe.leave (h : Safe ceiling s) (hinside : task ∈ s.inside) :
    Safe ceiling { s with
      value := s.value + 1
      active := s.active - 1
      inside := s.inside.erase task } := by
  have hlength := List.length_erase_add_one hinside
  refine ⟨?_, h.mutex, ?_, h.stages, h.last, h.spaced⟩
  · have hpermits := h.permits
    rw [pending] at hpermits ⊢
    dsimp only
    omega
  · rw [h.active, ← hlength]
    push_cast
    ring

/-- A task that waits for the lock is cancelled. -/
theorem Safe.release (h : Safe ceiling s) (hwaiting : task ∈ s.waiting) :
    Safe ceiling { s with value := s.value + 1, waiting := s.waiting.erase task } := by
  have hlength := List.length_erase_add_one hwaiting
  refine ⟨?_, h.mutex, h.active, h.stages, h.last, h.spaced⟩
  have hpermits := h.permits
  rw [pending] at hpermits ⊢
  dsimp only
  omega

/-- **Every event keeps the invariant.** -/
theorem Safe.step {event : Event ι} (h : Safe ceiling s) (hstep : s.step event = some s') :
    Safe ceiling s' := by
  cases event with
  | enter task =>
    obtain rfl := Option.some.inj hstep
    exact ⟨h.permits, h.mutex, h.active, h.stages, h.last, h.spaced⟩
  | granted task =>
    obtain ⟨⟨-, hvalue⟩, ⟨⟩⟩ := Option.ite_none_right_eq_some.mp hstep
    exact h.grant hvalue
  | entered task =>
    obtain ⟨⟨hwaiting, hfree⟩, ⟨⟩⟩ := Option.ite_none_right_eq_some.mp hstep
    exact h.enter hwaiting hfree
  | sampled task cpuPercent =>
    obtain ⟨hx, ⟨⟩⟩ := Option.ite_none_right_eq_some.mp hstep
    refine h.move hx ?_
    split
    · exact spaced_gate s s
    · trivial
  | paced task =>
    obtain ⟨hx, hs'⟩ := Option.ite_none_right_eq_some.mp hstep
    obtain rfl := Option.some.inj hs'
    refine h.move hx ?_
    split
    · rw [Spaced]
      linarith
    · next hdelay =>
      rw [Spaced]
      linarith
  | woken task wake =>
    obtain ⟨⟨hx, hwake⟩, ⟨⟩⟩ := Option.ite_none_right_eq_some.mp hstep
    exact h.move hx ((h.stages _ hx).trans hwake)
  | admitted task =>
    obtain ⟨hx, ⟨⟩⟩ := Option.ite_none_right_eq_some.mp hstep
    exact h.admit hx
  | leave task =>
    obtain ⟨hinside, ⟨⟩⟩ := Option.ite_none_right_eq_some.mp hstep
    exact h.leave hinside
  | cancelled task await =>
    cases await with
    | slot =>
      obtain ⟨-, ⟨⟩⟩ := Option.ite_none_right_eq_some.mp hstep
      exact ⟨h.permits, h.mutex, h.active, h.stages, h.last, h.spaced⟩
    | lock =>
      obtain ⟨hwaiting, ⟨⟩⟩ := Option.ite_none_right_eq_some.mp hstep
      exact h.release hwaiting
    | sample =>
      obtain ⟨hx, ⟨⟩⟩ := Option.ite_none_right_eq_some.mp hstep
      exact h.abandon hx
    | sleep wake =>
      obtain ⟨hx, ⟨⟩⟩ := Option.ite_none_right_eq_some.mp hstep
      exact h.abandon hx
  | passed seconds =>
    obtain ⟨hseconds, ⟨⟩⟩ := Option.ite_none_right_eq_some.mp hstep
    exact h.pass hseconds

/-- With nobody inside, the CPU holds up no task: the one that takes the lock passes at once, and the
one that waits for a sample passes whatever it shows. -/
theorem Safe.unblocked (h : Safe ceiling s) (hempty : s.inside = []) :
    (∀ task ∈ s.waiting, s.locked = false → ∃ s', s.step (.entered task) = some s' ∧
      (task, .pacing) ∈ s'.admission) ∧
    ∀ task cpuPercent, (task, .sampling) ∈ s.admission →
      ∃ s', s.step (.sampled task cpuPercent) = some s' ∧ (task, .pacing) ∈ s'.admission := by
  have hgate : s.gate = .pacing := by
    rw [gate, h.active, hempty]
    rfl
  constructor
  · intro task hwaiting hfree
    exact ⟨_, if_pos ⟨hwaiting, hfree⟩, by rw [hgate]; exact List.mem_cons_self⟩
  · intro task cpuPercent hsampling
    refine ⟨_, if_pos hsampling, ?_⟩
    rw [hgate, ite_self]
    exact List.mem_cons_self

end Steps

end CpuConcurrencyLimiter

open CpuConcurrencyLimiter

/-- **The admission limiter is safe**, whatever the order in which tasks enter, leave and are
cancelled, and whatever the CPU shows. -/
theorem limiter_safe {ι : Type} [DecidableEq ι] (ceiling : ℕ) (now : ℚ) (events : List (Event ι))
    {s : CpuConcurrencyLimiter ι} (h : run step (new ι ceiling now) events = some s) :
    s.inside.length ≤ ceiling ∧
    s.active = s.inside.length ∧
    s.value + (s.inside.length + s.pending) = ceiling ∧
    s.admission.length ≤ 1 ∧
    s.admissions.IsChain (fun moment moment' ↦ moment + ADMISSION_INTERVAL_SEC ≤ moment') ∧
    (s.inside = [] →
      (∀ task ∈ s.waiting, s.locked = false → ∃ s', s.step (.entered task) = some s' ∧
        (task, .pacing) ∈ s'.admission) ∧
      ∀ task cpuPercent, (task, .sampling) ∈ s.admission →
        ∃ s', s.step (.sampled task cpuPercent) = some s' ∧ (task, .pacing) ∈ s'.admission) := by
  have hsafe : Safe ceiling s := run_invariant (I := fun _ s ↦ Safe ceiling s)
    (new_safe ceiling now) (fun _ _ _ _ hbefore hstep ↦ hbefore.step hstep) h
  have hpermits := hsafe.permits
  refine ⟨by omega, hsafe.active, hpermits, ?_, hsafe.spaced, hsafe.unblocked⟩
  rw [hsafe.mutex]
  split
  · exact le_rfl
  · exact Nat.zero_le 1

/-- Two tasks and two permits: the second one is sampled while the first is inside, and admitted after
it left. -/
theorem limiter_safe_two : ∃ s : CpuConcurrencyLimiter Bool,
    run step (new Bool 2 100) [.enter false, .enter true, .granted false, .granted true,
      .entered false, .paced false, .admitted false, .entered true, .leave false,
      .sampled true 100, .paced true, .passed 5, .woken true 105, .admitted true] = some s ∧
    s.active = s.inside.length := by
  obtain ⟨s, hs⟩ := Option.isSome_iff_exists.mp (by decide +kernel :
    (run step (new Bool 2 100) [.enter false, .enter true, .granted false, .granted true,
      .entered false, .paced false, .admitted false, .entered true, .leave false,
      .sampled true 100, .paced true, .passed 5, .woken true 105, .admitted true]).isSome)
  exact ⟨s, hs, (limiter_safe 2 100 _ hs).2.1⟩

end HarnessTraining
