import HarnessTraining.Library.Transitions
import Mathlib.Data.Finset.Card
import Mathlib.Data.Int.Notation
import Mathlib.Logic.Function.Basic

/-!
# Overlapping evaluation

`_run_overlapping` of `scripts/evaluate.py`.  A run starts the next one out of a callback, so the runs
that have not ended are nested, and only the innermost one reports.  Every run has a set of its
unfinished tasks, and `active` refers to these sets; a run that ends removes the first set that is
*equal* to its own, which may be that of a run around it.

* `Overlap.step` — what a report does, and the end of a run.
* `overlapping_iff` — no run is lost just if every task is reported by a run that `active` still has.
-/

set_option autoImplicit false

namespace HarnessTraining

open Transitions

/-- `_ScheduledRun`, with what is read of its config. -/
structure ScheduledRun where
  taskNames : List String
  maxRolloutConcurrency : ℤ

/-- A call of `run_next` that has not returned. -/
structure RunFrame where
  run : ScheduledRun
  /-- The set of its unfinished tasks, by reference. -/
  unfinished : ℕ
  nextStarted : Bool := false

/-- What the innermost run does. -/
inductive RunEvent (R : Type) where
  | experimentStarted
  | taskFinished (taskId : String)
  /-- `_evaluate` returns a result, or raises a `MeasurementError` that may have one. -/
  | ended (outcome : Except (Option R) R)

/-- The result of a run that has one. -/
def RunEvent.result? {R : Type} : RunEvent R → List R
  | .ended (.ok result) => [result]
  | .ended (.error result) => result.toList
  | _ => []

/-- The state of `_run_overlapping`; the sets are counted in the order in which they are made. -/
structure Overlap (R : Type) where
  pending : List ScheduledRun
  sets : ℕ → Finset String := fun _ ↦ ∅
  active : List ℕ := []
  results : List R := []
  failed : Bool := false
  /-- The innermost run is the first. -/
  frames : List RunFrame := []
  /-- The calls of `_evaluate`, with their `task_ids`. -/
  evaluated : List (ScheduledRun × List String) := []
  raised : Option String := none

namespace Overlap

variable {R : Type}

/-- The task is in one of the sets of `active`. -/
def conflicts (s : Overlap R) (task : String) : Bool :=
  s.active.any fun reference ↦ task ∈ s.sets reference

/-- The tasks of a run, those in conflict last. -/
def ordered (s : Overlap R) (run : ScheduledRun) : List String :=
  run.taskNames.filter (!s.conflicts ·) ++ run.taskNames.filter s.conflicts

/-- `run_next`, up to what `_evaluate` reports. -/
def runNext (s : Overlap R) : Overlap R :=
  match s.pending with
  | [] => s
  | run :: pending => { s with
      pending := pending
      sets := Function.update s.sets s.evaluated.length run.taskNames.toFinset
      active := s.active ++ [s.evaluated.length]
      frames := ⟨run, s.evaluated.length, false⟩ :: s.frames
      evaluated := s.evaluated ++ [(run, s.ordered run)] }

/-- `start_next`, of the innermost run. -/
def startNext (s : Overlap R) (frame : RunFrame) (outer : List RunFrame) : Overlap R :=
  if frame.nextStarted then s
  else runNext { s with frames := { frame with nextStarted := true } :: outer }

/-- `maybe_start_next`, of the innermost run. -/
def maybeStartNext (s : Overlap R) (frame : RunFrame) (outer : List RunFrame) : Overlap R :=
  if ((s.sets frame.unfinished).card : ℤ) < frame.run.maxRolloutConcurrency then s.startNext frame outer
  else s

/-- A result, or a failure. -/
def record (s : Overlap R) : Except (Option R) R → Overlap R
  | .ok result => { s with results := s.results ++ [result] }
  | .error result => { s with failed := true, results := s.results ++ result.toList }

/-- `unfinished.remove(task_id)`. -/
def removeTask (s : Overlap R) (reference : ℕ) (task : String) : Overlap R :=
  { s with sets := Function.update s.sets reference ((s.sets reference).erase task) }

/-- What the innermost run does next, unless `_run_overlapping` has ended. -/
def step (s : Overlap R) (event : RunEvent R) : Option (Overlap R) :=
  match s.raised, s.frames with
  | none, frame :: outer =>
    match event with
    | .experimentStarted => some (s.maybeStartNext frame outer)
    | .taskFinished taskId =>
      if taskId ∈ s.sets frame.unfinished then
        some ((s.removeTask frame.unfinished taskId).maybeStartNext frame outer)
      else some { s with raised := some "KeyError" }
    | .ended outcome =>
      let s := s.record outcome
      -- `active.remove(unfinished)`
      if s.active.any fun reference ↦ s.sets reference = s.sets frame.unfinished then
        let s := { s with
          active := s.active.eraseP fun reference ↦ s.sets reference = s.sets frame.unfinished
          frames := outer }
        some (if frame.nextStarted then s else s.runNext)
      else some { s with raised := some "ValueError" }
  | _, _ => none

/-- The outermost call of `run_next`. -/
def start (runs : List ScheduledRun) : Overlap R := runNext { pending := runs }

/-- `_run_overlapping` has returned, or raised. -/
def Over (s : Overlap R) : Prop := s.raised.isSome ∨ s.frames = []

/-! ## What the runs report -/

/-- A task that is reported is one that the run has not reported. -/
def Reported (s : Overlap R) : RunEvent R → Prop
  | .taskFinished taskId => ∀ frame ∈ s.frames.head?, taskId ∈ s.sets frame.unfinished
  | _ => True

/-- A run that reports a task has its set in `active`. -/
def Listed (s : Overlap R) : RunEvent R → Prop
  | .taskFinished _ => ∀ frame ∈ s.frames.head?, frame.unfinished ∈ s.active
  | _ => True

instance (s : Overlap R) (event : RunEvent R) : Decidable (s.Reported event) := by
  cases event <;> unfold Reported <;> infer_instance

instance (s : Overlap R) (event : RunEvent R) : Decidable (s.Listed event) := by
  cases event <;> unfold Listed <;> infer_instance

/-! ## The sets -/

/-- The sets that `active` refers to. -/
def listed (s : Overlap R) : List (Finset String) := s.active.map s.sets

/-- The sets of the runs that have not ended. -/
def owned (s : Overlap R) : List (Finset String) := s.frames.map fun frame ↦ s.sets frame.unfinished

def weight : List (Finset String) → ℕ
  | [] => 0
  | set :: sets => set.card + weight sets

theorem weight_cons (set : Finset String) (sets : List (Finset String)) :
    weight (set :: sets) = set.card + weight sets := rfl

theorem weight_append (sets sets' : List (Finset String)) :
    weight (sets ++ sets') = weight sets + weight sets' := by
  induction sets with
  | nil => rw [List.nil_append, weight, Nat.zero_add]
  | cons set sets ih => rw [List.cons_append, weight_cons, weight_cons, ih, Nat.add_assoc]

theorem weight_perm {sets sets' : List (Finset String)} (h : sets.Perm sets') :
    weight sets = weight sets' := by
  induction h with
  | nil => rfl
  | cons set _ ih => rw [weight_cons, weight_cons, ih]
  | swap set set' sets => rw [weight_cons, weight_cons, weight_cons, weight_cons, Nat.add_left_comm]
  | trans _ _ ih ih' => exact ih.trans ih'

/-- The bookkeeping of the references. -/
structure Books (runs : List ScheduledRun) (s : Overlap R) : Prop where
  evaluated : s.evaluated.map Prod.fst ++ s.pending = runs
  active : ∀ reference ∈ s.active, reference < s.evaluated.length
  activeNodup : s.active.Nodup
  frames : ∀ frame ∈ s.frames, frame.unfinished < s.evaluated.length
  framesNodup : (s.frames.map RunFrame.unfinished).Nodup

/-- A step that starts at most one run. -/
structure Starts (runs : List ScheduledRun) (s s' : Overlap R) : Prop where
  books : Books runs s'
  sets : ∃ added, s'.listed = s.listed ++ added ∧ s'.owned = added ++ s.owned
  results : s'.results = s.results
  failed : s'.failed = s.failed
  raised : s'.raised = s.raised

variable {runs : List ScheduledRun} {s s' : Overlap R} {frame : RunFrame} {outer : List RunFrame}

theorem Starts.refl (h : Books runs s) : Starts runs s s :=
  ⟨h, ⟨[], by rw [List.append_nil], rfl⟩, rfl, rfl, rfl⟩

theorem Books.runNext (h : Books runs s) : Starts runs s s.runNext := by
  rw [Overlap.runNext]
  split
  · exact .refl h
  next run pending hpending =>
    have hnotMem : s.evaluated.length ∉ s.active := fun hmem ↦ (h.active _ hmem).false
    have hlisted : s.active.map (Function.update s.sets s.evaluated.length run.taskNames.toFinset) =
        s.listed :=
      List.map_congr_left fun reference hreference ↦
        Function.update_of_ne (h.active reference hreference).ne ..
    have howned : (s.frames.map fun frame ↦
        Function.update s.sets s.evaluated.length run.taskNames.toFinset frame.unfinished) = s.owned :=
      List.map_congr_left fun frame hframe ↦ Function.update_of_ne (h.frames frame hframe).ne ..
    refine ⟨⟨?_, ?_, ?_, ?_, ?_⟩, ⟨[run.taskNames.toFinset], ?_, ?_⟩, rfl, rfl, rfl⟩
    · dsimp only
      rw [List.map_append, List.map_singleton, List.append_assoc, List.singleton_append, ← hpending]
      exact h.evaluated
    · intro reference hreference
      dsimp only
      rw [List.length_append, List.length_singleton]
      rcases List.mem_append.mp hreference with hreference | hreference
      · exact (h.active reference hreference).trans (Nat.lt_succ_self _)
      · rw [List.mem_singleton.mp hreference]
        exact Nat.lt_succ_self _
    · exact List.nodup_append.mpr ⟨h.activeNodup, List.nodup_singleton _, by
        rintro reference hreference _ hnew rfl
        rw [List.mem_singleton.mp hnew] at hreference
        exact hnotMem hreference⟩
    · intro frame hframe
      dsimp only
      rw [List.length_append, List.length_singleton]
      rcases List.mem_cons.mp hframe with rfl | hframe
      · exact Nat.lt_succ_self _
      · exact (h.frames frame hframe).trans (Nat.lt_succ_self _)
    · refine List.nodup_cons.mpr ⟨fun hmem ↦ ?_, h.framesNodup⟩
      obtain ⟨frame, hframe, heq⟩ := List.mem_map.mp hmem
      exact (h.frames frame hframe).ne heq
    · rw [listed]
      dsimp only
      rw [List.map_append, hlisted, List.map_singleton, Function.update_self]
    · rw [owned]
      dsimp only
      rw [List.map_cons, howned, Function.update_self, List.singleton_append]

theorem Books.maybeStartNext (h : Books runs s) (hframes : s.frames = frame :: outer) :
    Starts runs s (s.maybeStartNext frame outer) := by
  rw [Overlap.maybeStartNext]
  split
  · rw [Overlap.startNext]
    split
    · exact .refl h
    · have hbooks : Books runs { s with frames := { frame with nextStarted := true } :: outer } := by
        refine ⟨h.evaluated, h.active, h.activeNodup, fun frame' hframe' ↦ ?_, ?_⟩
        · rcases List.mem_cons.mp hframe' with rfl | hframe'
          · exact h.frames frame (by rw [hframes]; exact List.mem_cons_self)
          · exact h.frames frame' (by rw [hframes]; exact List.mem_cons_of_mem _ hframe')
        · have hnodup := h.framesNodup
          rwa [hframes] at hnodup
      have hstarts := hbooks.runNext
      have howned : ({ s with frames := { frame with nextStarted := true } :: outer } : Overlap R).owned =
          s.owned := by
        rw [owned, owned, hframes]
        rfl
      obtain ⟨added, hlisted, hadded⟩ := hstarts.sets
      rw [howned] at hadded
      exact ⟨hstarts.books, ⟨added, hlisted, hadded⟩, hstarts.results, hstarts.failed, hstarts.raised⟩
  · exact .refl h

/-! ## Runs that wait -/

/-- The runs around the innermost one have started the next run; and after a run that has, there is
none left when it is the innermost one again. -/
structure Waits (s : Overlap R) : Prop where
  outer : ∀ frame ∈ s.frames.tail, frame.nextStarted = true
  inner : ∀ frame ∈ s.frames.head?, frame.nextStarted = true → s.pending = []
  last : s.frames = [] → s.pending = []

theorem waits_runNext (h : ∀ frame ∈ s.frames, frame.nextStarted = true) : Waits s.runNext := by
  rw [runNext]
  split
  · next hpending =>
    exact ⟨fun frame hframe ↦ h frame (List.mem_of_mem_tail hframe), fun _ _ _ ↦ hpending, fun _ ↦ hpending⟩
  · refine ⟨h, fun frame hframe hstarted ↦ ?_, by rintro ⟨⟩⟩
    cases hframe
    cases hstarted

theorem Waits.maybeStartNext (h : Waits s) (hframes : s.frames = frame :: outer) :
    Waits (s.maybeStartNext frame outer) := by
  have houter := h.outer
  rw [hframes] at houter
  rw [Overlap.maybeStartNext]
  split
  · rw [Overlap.startNext]
    split
    · exact h
    · exact waits_runNext (List.forall_mem_cons.mpr ⟨rfl, houter⟩)
  · exact h

/-- The innermost run ends. -/
theorem Waits.ended (h : Waits s) (hframes : s.frames = frame :: outer) {s₁ : Overlap R}
    (hpending : s₁.pending = s.pending) (houter : s₁.frames = outer) :
    Waits (if frame.nextStarted then s₁ else s₁.runNext) := by
  have hstarted := h.outer
  have hinner := h.inner frame
  rw [hframes, List.tail_cons] at hstarted
  rw [hframes, List.head?_cons] at hinner
  split
  · next hnext =>
    have hnone := hpending.trans (hinner rfl hnext)
    exact ⟨fun frame' hframe' ↦ hstarted frame' (houter ▸ List.mem_of_mem_tail hframe'), fun _ _ _ ↦ hnone,
      fun _ ↦ hnone⟩
  · exact waits_runNext (by rwa [houter])

/-! ## One report -/

theorem owned_cons (hframes : s.frames = frame :: outer) :
    s.owned = s.sets frame.unfinished :: outer.map fun frame ↦ s.sets frame.unfinished := by
  rw [owned, hframes, List.map_cons]

theorem Books.removeTask (h : Books runs s) (reference : ℕ) (task : String) :
    Books runs (s.removeTask reference task) :=
  ⟨h.evaluated, h.active, h.activeNodup, h.frames, h.framesNodup⟩

theorem owned_removeTask (h : Books runs s) (hframes : s.frames = frame :: outer) (task : String) :
    (s.removeTask frame.unfinished task).owned =
      (s.sets frame.unfinished).erase task :: outer.map fun frame ↦ s.sets frame.unfinished := by
  have hnodup := h.framesNodup
  rw [hframes, List.map_cons, List.nodup_cons] at hnodup
  rw [owned, removeTask, hframes]
  dsimp only
  rw [List.map_cons, Function.update_self]
  refine congrArg _ (List.map_congr_left fun frame' hframe' ↦ Function.update_of_ne ?_ ..)
  exact fun heq ↦ hnodup.1 (heq ▸ List.mem_map_of_mem hframe')

theorem listed_removeTask_of_notMem {reference : ℕ} (h : reference ∉ s.active) (task : String) :
    (s.removeTask reference task).listed = s.listed :=
  List.map_congr_left fun _ hmem ↦ Function.update_of_ne (by rintro rfl; exact h hmem) ..

theorem listed_removeTask (h : Books runs s) {reference : ℕ} (hmem : reference ∈ s.active)
    (task : String) : ∃ before after, s.listed = before ++ s.sets reference :: after ∧
      (s.removeTask reference task).listed = before ++ (s.sets reference).erase task :: after := by
  obtain ⟨before, after, hactive⟩ := List.append_of_mem hmem
  have hnodup := h.activeNodup
  rw [hactive, List.nodup_middle, List.nodup_cons] at hnodup
  have hsame {references : List ℕ} (hsub : references ⊆ before ++ after) :
      references.map (Function.update s.sets reference ((s.sets reference).erase task)) =
        references.map s.sets :=
    List.map_congr_left fun _ hmem' ↦ Function.update_of_ne (by rintro rfl; exact hnodup.1 (hsub hmem')) ..
  refine ⟨before.map s.sets, after.map s.sets, ?_, ?_⟩
  · rw [listed, hactive, List.map_append, List.map_cons]
  · rw [listed, removeTask]
    dsimp only
    rw [hactive, List.map_append, List.map_cons, Function.update_self,
      hsame (List.subset_append_left ..), hsame (List.subset_append_right ..)]

/-- `list.remove`, of a list of references. -/
theorem map_eraseP {sets : ℕ → Finset String} {set : Finset String} : ∀ references : List ℕ,
    (references.eraseP fun reference ↦ sets reference = set).map sets = (references.map sets).erase set
  | [] => rfl
  | reference :: references => by
    rw [List.eraseP_cons, List.map_cons, List.erase_cons]
    by_cases heq : sets reference = set
    · simp [heq]
    · simp [heq, map_eraseP references]

/-! ## What the sets weigh -/

/-- `active` has as many sets as there are runs, and no fewer tasks in them; while all reports were
`clean`, it has the same sets. -/
structure Weighed (clean : Prop) (s : Overlap R) : Prop where
  length : s.listed.length = s.owned.length
  light : weight s.owned ≤ weight s.listed
  dirty : ¬clean → weight s.owned < weight s.listed
  perm : clean → s.listed.Perm s.owned

variable {clean : Prop}

theorem Weighed.starts (h : Weighed clean s) (hstarts : Starts runs s s') : Weighed clean s' := by
  obtain ⟨added, hlisted, howned⟩ := hstarts.sets
  have hlength := h.length
  have hlight := h.light
  refine ⟨?_, ?_, fun hdirty ↦ ?_, fun hclean ↦ ?_⟩
  · rw [hlisted, howned, List.length_append, List.length_append]
    omega
  · rw [hlisted, howned, weight_append, weight_append]
    omega
  · have hless := h.dirty hdirty
    rw [hlisted, howned, weight_append, weight_append]
    omega
  · rw [hlisted, howned]
    exact ((h.perm hclean).append_right added).trans List.perm_append_comm

theorem Weighed.report (h : Weighed clean s) (hbooks : Books runs s) (hframes : s.frames = frame :: outer)
    {task : String} (htask : task ∈ s.sets frame.unfinished) :
    Weighed (clean ∧ frame.unfinished ∈ s.active) (s.removeTask frame.unfinished task) := by
  have howned := owned_cons hframes
  have howned' := owned_removeTask hbooks hframes task
  have hcard := Finset.card_erase_add_one htask
  have hlight := h.light
  have hlength := h.length
  rw [howned, weight_cons] at hlight
  rw [howned, List.length_cons] at hlength
  by_cases hmem : frame.unfinished ∈ s.active
  · obtain ⟨before, after, hlisted, hlisted'⟩ := listed_removeTask hbooks hmem task
    rw [hlisted, List.length_append, List.length_cons] at hlength
    rw [hlisted, weight_append, weight_cons] at hlight
    refine ⟨?_, ?_, fun hdirty ↦ ?_, fun hclean ↦ ?_⟩
    · rw [hlisted', howned', List.length_append, List.length_cons, List.length_cons]
      exact hlength
    · rw [hlisted', howned', weight_append, weight_cons, weight_cons]
      omega
    · have hless := h.dirty fun hclean ↦ hdirty ⟨hclean, hmem⟩
      rw [hlisted, howned, weight_append, weight_cons, weight_cons] at hless
      rw [hlisted', howned', weight_append, weight_cons, weight_cons]
      omega
    · have hperm := h.perm hclean.1
      rw [hlisted, howned] at hperm
      rw [hlisted', howned']
      exact List.perm_middle.trans ((List.perm_middle.symm.trans hperm).cons_inv.cons _)
  · -- the set that `active` has in its place keeps the task
    have hlisted := listed_removeTask_of_notMem hmem task
    refine ⟨?_, ?_, fun _ ↦ ?_, fun hclean ↦ absurd hclean.2 hmem⟩
    · rw [hlisted, howned', List.length_cons]
      exact hlength
    · rw [hlisted, howned', weight_cons]
      omega
    · rw [hlisted, howned', weight_cons]
      omega

theorem Weighed.ended (h : Weighed clean s) {set : Finset String} (hmem : set ∈ s.listed)
    (hlisted : s'.listed = s.listed.erase set) (howned : s.owned = set :: s'.owned) :
    Weighed clean s' := by
  have hperm := List.perm_cons_erase hmem
  have hlength := h.length
  have hlight := h.light
  have hsize := hperm.length_eq
  have hweight := weight_perm hperm
  rw [weight_cons, ← hlisted] at hweight
  rw [howned, weight_cons] at hlight
  rw [howned, List.length_cons] at hlength
  rw [List.length_cons, ← hlisted] at hsize
  refine ⟨?_, ?_, fun hdirty ↦ ?_, fun hclean ↦ ?_⟩
  · omega
  · omega
  · have hless := h.dirty hdirty
    rw [howned, weight_cons] at hless
    omega
  · have hsame := hperm.symm.trans (h.perm hclean)
    rw [howned, ← hlisted] at hsame
    exact hsame.cons_inv

/-- While all reports were clean, a run that ends finds its set. -/
theorem Weighed.finds (h : Weighed clean s) (hclean : clean) (hframes : s.frames = frame :: outer) :
    s.sets frame.unfinished ∈ s.listed := by
  rw [(h.perm hclean).mem_iff, owned_cons hframes]
  exact List.mem_cons_self

/-! ## Every order of reports -/

/-- Every task so far was reported by a run that `active` had. -/
abbrev Clean (runs : List ScheduledRun) (events : List (RunEvent R)) : Prop :=
  Meets step Listed (start runs) events

/-- After some events. -/
structure Inv (runs : List ScheduledRun) (events : List (RunEvent R)) (s : Overlap R) : Prop where
  books : Books runs s
  results : s.results = events.flatMap RunEvent.result?
  failed : s.failed = true ↔ ∃ result, .ended (.error result) ∈ events
  waits : s.raised = none → Waits s
  weighed : s.raised = none → Weighed (Clean runs events) s
  returns : Clean runs events → s.raised = none

theorem any_iff_mem_listed {set : Finset String} :
    (s.active.any fun reference ↦ s.sets reference = set) = true ↔ set ∈ s.listed := by
  rw [List.any_eq_true, listed, List.mem_map]
  simp only [decide_eq_true_iff]

theorem results_record (outcome : Except (Option R) R) :
    (s.record outcome).results = s.results ++ (RunEvent.ended outcome).result? := by
  cases outcome <;> rfl

theorem failed_record (outcome : Except (Option R) R) :
    (s.record outcome).failed = true ↔ s.failed = true ∨ ∃ result, outcome = .error result := by
  cases outcome with
  | ok result => simp [record]
  | error result => simp [record]

theorem record_eq (outcome : Except (Option R) R) : s.record outcome =
    { s with results := (s.record outcome).results, failed := (s.record outcome).failed } := by
  cases outcome <;> rfl

variable {events : List (RunEvent R)} {event : RunEvent R}

theorem clean_snoc (hrun : run step (start runs) events = some s) :
    Clean runs (events ++ [event]) ↔ Clean runs events ∧ s.Listed event := by
  rw [Clean, meets_snoc, hrun]
  simp only [Option.some.injEq, forall_eq']

/-- A report that starts at most one run, from a state like the one before. -/
theorem Inv.report (h : Inv runs events s) {s₁ : Overlap R} (hstarts : Starts runs s₁ s')
    (hevent : RunEvent.result? event = []) (hnot : ∀ outcome, event ≠ .ended outcome)
    (hresults : s₁.results = s.results) (hfailed : s₁.failed = s.failed) (hraised : s₁.raised = none)
    (hwaits : Waits s') (hweighed : Weighed (Clean runs (events ++ [event])) s₁) :
    Inv runs (events ++ [event]) s' where
  books := hstarts.books
  results := by
    rw [hstarts.results, hresults, h.results, List.flatMap_append, List.flatMap_singleton, hevent,
      List.append_nil]
  failed := by
    rw [hstarts.failed, hfailed, h.failed]
    refine exists_congr fun result ↦ ?_
    rw [List.mem_append, List.mem_singleton, or_iff_left (hnot _).symm]
  waits _ := hwaits
  weighed _ := hweighed.starts hstarts
  returns _ := hstarts.raised.trans hraised

theorem Inv.step (h : Inv runs events s) (hrun : run step (start runs) events = some s)
    (hreported : s.Reported event) (hstep : s.step event = some s') :
    Inv runs (events ++ [event]) s' := by
  have hsnoc := @clean_snoc R runs s events event hrun
  rw [Overlap.step.eq_def] at hstep
  split at hstep
  case h_2 => cases hstep
  next frame outer hraised hframes =>
  have hweighed := h.weighed hraised
  cases event with
  | experimentStarted =>
    obtain rfl := Option.some.inj hstep
    have hclean : Clean runs (events ++ [RunEvent.experimentStarted (R := R)]) = Clean runs events :=
      propext (hsnoc.trans (and_iff_left trivial))
    refine h.report (h.books.maybeStartNext hframes) rfl (by rintro _ ⟨⟩) rfl rfl hraised
      ((h.waits hraised).maybeStartNext hframes) ?_
    rwa [hclean]
  | taskFinished taskId =>
    have htask : taskId ∈ s.sets frame.unfinished := hreported frame (by rw [hframes]; rfl)
    dsimp only at hstep
    rw [if_pos htask] at hstep
    obtain rfl := Option.some.inj hstep
    have hclean : Clean runs (events ++ [RunEvent.taskFinished (R := R) taskId]) =
        (Clean runs events ∧ frame.unfinished ∈ s.active) := by
      refine propext (hsnoc.trans (and_congr_right fun _ ↦ ?_))
      rw [Listed, hframes, List.head?_cons]
      simp
    refine h.report ((h.books.removeTask _ _).maybeStartNext hframes) rfl (by rintro _ ⟨⟩) rfl rfl hraised
      (Waits.maybeStartNext ⟨(h.waits hraised).outer, (h.waits hraised).inner, (h.waits hraised).last⟩
        hframes) ?_
    rw [hclean]
    exact hweighed.report h.books hframes htask
  | ended outcome =>
    have hclean : Clean runs (events ++ [RunEvent.ended outcome]) = Clean runs events :=
      propext (hsnoc.trans (and_iff_left trivial))
    have hresults : (s.record outcome).results =
        (events ++ [RunEvent.ended outcome]).flatMap RunEvent.result? := by
      rw [results_record, h.results, List.flatMap_append, List.flatMap_singleton]
    have hfailed : (s.record outcome).failed = true ↔
        ∃ result, RunEvent.ended (.error result) ∈ events ++ [RunEvent.ended outcome] := by
      rw [failed_record, h.failed, ← exists_or]
      refine exists_congr fun result ↦ ?_
      rw [List.mem_append, List.mem_singleton, RunEvent.ended.injEq, eq_comm]
    dsimp only at hstep
    rw [record_eq] at hstep
    generalize (s.record outcome).results = results at hstep hresults
    generalize (s.record outcome).failed = failed at hstep hfailed
    dsimp only at hstep
    split at hstep
    · next hany =>
      have hmem := any_iff_mem_listed.mp hany
      let s₁ : Overlap R := { s with
        results := results
        failed := failed
        active := s.active.eraseP fun reference ↦ s.sets reference = s.sets frame.unfinished
        frames := outer }
      have hbooks : Books runs s₁ := by
        have hframesLt := h.books.frames
        have hnodup := h.books.framesNodup
        rw [hframes] at hframesLt hnodup
        exact ⟨h.books.evaluated, fun reference hreference ↦ h.books.active reference
          (List.eraseP_subset hreference), h.books.activeNodup.sublist List.eraseP_sublist,
          fun frame' hframe' ↦ hframesLt frame' (List.mem_cons_of_mem _ hframe'),
          (List.nodup_cons.mp hnodup).2⟩
      have hstarts : Starts runs s₁ (if frame.nextStarted then s₁ else s₁.runNext) := by
        split
        · exact .refl hbooks
        · exact hbooks.runNext
      have hwaits : Waits (if frame.nextStarted then s₁ else s₁.runNext) :=
        (h.waits hraised).ended hframes rfl rfl
      obtain rfl := Option.some.inj hstep
      refine ⟨hstarts.books, hstarts.results.trans hresults, by rw [hstarts.failed]; exact hfailed,
        fun _ ↦ hwaits, fun _ ↦ ?_, fun _ ↦ hstarts.raised.trans hraised⟩
      rw [hclean]
      have hended : Weighed (Clean runs events) s₁ :=
        hweighed.ended hmem (map_eraseP s.active) (owned_cons hframes)
      exact hended.starts hstarts
    · next hnone =>
      obtain rfl := Option.some.inj hstep
      refine ⟨⟨h.books.evaluated, h.books.active, h.books.activeNodup, h.books.frames,
        h.books.framesNodup⟩, hresults, hfailed, by rintro ⟨⟩, by rintro ⟨⟩, fun hall ↦ ?_⟩
      rw [hclean] at hall
      exact absurd (any_iff_mem_listed.mpr (hweighed.finds hall hframes)) hnone

theorem Inv.start (runs : List ScheduledRun) : Inv runs [] (start (R := R) runs) := by
  have hbooks : Books runs ({ pending := runs } : Overlap R) :=
    ⟨rfl, by rintro _ ⟨⟩, List.nodup_nil, by rintro _ ⟨⟩, List.nodup_nil⟩
  have hweighed : Weighed (Clean (R := R) runs []) ({ pending := runs } : Overlap R) :=
    ⟨rfl, le_rfl, fun hdirty ↦ absurd trivial hdirty, fun _ ↦ .refl []⟩
  have hstarts := hbooks.runNext
  exact ⟨hstarts.books, hstarts.results, by rw [Overlap.start, hstarts.failed]; simp,
    fun _ ↦ waits_runNext (by rintro _ ⟨⟩), fun _ ↦ hweighed.starts hstarts, fun _ ↦ hstarts.raised⟩

theorem inv_of_run (hreports : Meets step Reported (start runs) events)
    (hrun : run step (start runs) events = some s) : Inv runs events s := by
  refine (run_invariant (I := fun events s ↦ Meets Overlap.step Reported (Overlap.start runs) events →
    run Overlap.step (Overlap.start runs) events = some s ∧ Inv runs events s)
    (fun _ ↦ ⟨rfl, .start runs⟩) (fun events middle event next ih hevent hmeets ↦ ?_) hrun hreports).2
  rw [meets_snoc] at hmeets
  obtain ⟨hbefore, hinv⟩ := ih hmeets.1
  exact ⟨run_snoc.mpr ⟨middle, hbefore, hevent⟩, hinv.step hbefore (hmeets.2 middle hbefore) hevent⟩

/-- What `_run_overlapping` is to do with the runs. -/
structure Lossless (runs : List ScheduledRun) (events : List (RunEvent R)) (s : Overlap R) : Prop where
  started : s.evaluated.map Prod.fst = runs
  returns : s.raised = none
  failed : s.failed = true ↔ ∃ result, .ended (.error result) ∈ events
  results : s.results = events.flatMap RunEvent.result?

theorem overlapping_iff (hreports : Meets step Reported (start runs) events)
    (hrun : run step (start runs) events = some s) (hover : s.Over) :
    Lossless runs events s ↔ Meets step Listed (start runs) events := by
  have hinv := inv_of_run hreports hrun
  have hframes (hraised : s.raised = none) : s.frames = [] :=
    hover.resolve_left (by simp [hraised])
  constructor
  · intro hlossless
    have hraised := hlossless.returns
    have hweighed := hinv.weighed hraised
    have howned : s.owned = [] := by rw [owned, hframes hraised, List.map_nil]
    have hlisted : s.listed = [] := by
      rw [← List.length_eq_zero_iff, hweighed.length, howned, List.length_nil]
    -- `active` is empty, so nothing is left in it that was reported
    by_contra hdirty
    have hless := hweighed.dirty hdirty
    rw [howned, hlisted] at hless
    exact hless.false
  · intro hclean
    have hraised := hinv.returns hclean
    have hevaluated := hinv.books.evaluated
    rw [(hinv.waits hraised).last (hframes hraised), List.append_nil] at hevaluated
    exact ⟨hevaluated, hraised, hinv.failed, hinv.results⟩

/-- The same two tasks, two times. -/
def twice : List ScheduledRun := [⟨["a", "b"], 2⟩, ⟨["a", "b"], 2⟩]

/-- The second run crashes at once, with a result. -/
def crashes : List (RunEvent String) :=
  [.taskFinished "a", .ended (.error (some "second")), .taskFinished "b", .ended (.ok "first")]

theorem overlapping_crashes : ∃ s, run step (start twice) crashes = some s ∧
    (Lossless twice crashes s ↔ Meets step Listed (start twice) crashes) :=
  ⟨_, rfl, overlapping_iff (by decide) rfl (.inr rfl)⟩

/-- The second run crashes with the task unfinished that the first one has left. -/
def crashesAlike : List (RunEvent String) :=
  [.taskFinished "a", .taskFinished "a", .ended (.error none), .taskFinished "b", .ended (.ok "first")]

theorem overlapping_alike_raises : ∃ s, run step (start twice) crashesAlike = some s ∧
    Meets step Reported (start twice) crashesAlike ∧ s.Over ∧ s.raised = some "ValueError" ∧
    ¬Lossless twice crashesAlike s := by
  refine ⟨_, rfl, by decide, .inl rfl, rfl, fun hlossless ↦ ?_⟩
  have hraised := hlossless.returns
  cases hraised

end Overlap

end HarnessTraining
