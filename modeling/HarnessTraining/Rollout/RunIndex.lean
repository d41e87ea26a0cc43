import HarnessTraining.Library.StateExcept
import HarnessTraining.Library.Transitions
import HarnessTraining.Rollout.Store

/-!
# The run index

The index of finalized runs and the experiment files say the same.  `record_finalized_run` validates
the row of a run before it writes anything, then it replaces the file and appends the row; a later
save of the file only adds its certificates.

* `exec_record` — what one call does;
* `Joined` — the joint invariant of the two files;
* `index_consistent` — what it comes to after any history of calls.
-/

set_option autoImplicit false

namespace HarnessTraining

open StateExcept Transitions

namespace RunStore

/-- A call of `record_finalized_run`.  The record it is given passes its own validator. -/
structure FinalizedRun where
  result : ExperimentResult
  valid : result.check = .ok ()
  kind : RunKind
  parentCommitHash : Option Sha := none
  baselineExperimentId : Option String := none
  decision : Option ResultDecision := none

namespace FinalizedRun

/-- The record with the facts the loop owns. -/
def updated (call : FinalizedRun) : ExperimentResult :=
  withRelations call.result call.kind call.parentCommitHash call.baselineExperimentId call.decision

/-- `record_finalized_run`, write by write. -/
def record (hexdigest : String → String) (call : FinalizedRun) :
    Prog RunStore String ExperimentResult :=
  match indexRow hexdigest call.updated call.kind with
  | .error text => throw text
  | .ok row => do
    modify fun store ↦ store.saveExperiment call.updated
    modify fun store ↦ { store with index := store.index ++ [row] }
    return call.updated

/-- A row validates when the run has a finish stamp. -/
def succeeds (call : FinalizedRun) : Bool := call.result.finishedAt.isSome

/-- The row of a call. -/
def RowOf (hexdigest : String → String) (call : FinalizedRun) (row : RunIndexRow) : Prop :=
  indexRow hexdigest call.updated call.kind = .ok row

end FinalizedRun

/-! ## One call -/

section Call

variable {hexdigest : String → String} {call : FinalizedRun} {row : RunIndexRow}

open FinalizedRun

variable (hexdigest) in
theorem exists_rowOf (h : call.succeeds = true) : ∃ row, RowOf hexdigest call row := by
  obtain ⟨finishedAt, hfinished⟩ := Option.isSome_iff_exists.mp h
  have hupdated : call.updated.finishedAt = some finishedAt := hfinished
  simp only [RowOf, indexRow, hupdated]
  exact ⟨_, rfl⟩

variable (hexdigest) in
theorem indexRow_error (h : call.succeeds = false) :
    ∃ text, indexRow hexdigest call.updated call.kind = .error text := by
  have hupdated : call.updated.finishedAt = none :=
    Option.isNone_iff_eq_none.mp (Option.isSome_eq_false_iff.mp h)
  rw [indexRow, hupdated]
  exact ⟨_, rfl⟩

/-- A call whose row validates writes the file and then the row. -/
theorem exec_record (h : RowOf hexdigest call row) (store : RunStore) :
    exec (call.record hexdigest) store = (.ok call.updated,
      { store.saveExperiment call.updated with index := store.index ++ [row] }) := by
  rw [record, h]
  rfl

variable (hexdigest) in
/-- A call whose row does not validate writes nothing. -/
theorem exec_record_error (h : call.succeeds = false) (store : RunStore) :
    ∃ text, exec (call.record hexdigest) store = (.error text, store) := by
  obtain ⟨text, hrow⟩ := indexRow_error hexdigest h
  rw [record, hrow]
  exact ⟨text, rfl⟩

/-- The two writes are those of `record_finalized_run` as one function. -/
theorem exec_record_eq (store : RunStore) :
    exec (call.record hexdigest) store =
      match recordFinalizedRun hexdigest store call.result call.kind call.parentCommitHash
        call.baselineExperimentId call.decision with
      | .ok (store', updated) => (.ok updated, store')
      | .error text => (.error text, store) := by
  cases hsucceeds : call.succeeds with
  | true =>
    obtain ⟨row, hrow⟩ := exists_rowOf hexdigest hsucceeds
    rw [exec_record hrow, recordFinalizedRun]
    rw [RowOf, updated] at hrow
    rw [hrow]
    rfl
  | false =>
    obtain ⟨text, hrow⟩ := indexRow_error hexdigest hsucceeds
    rw [record, hrow, recordFinalizedRun]
    rw [updated] at hrow
    rw [hrow]
    rfl

end Call

/-! ## Histories -/

/-- What happens to the two files. -/
inductive IndexEvent where
  | finalize (call : FinalizedRun)
  /-- A saved experiment is given its certificates. -/
  | certify (runId : String) (certification : AList fun _ : TaskId ↦ TaskCertification)
  /-- A run that is not in the index is saved. -/
  | measure (record : ExperimentResult)

def step (hexdigest : String → String) (store : RunStore) : IndexEvent → Option RunStore
  | .finalize call => some (exec (call.record hexdigest) store).2
  | .certify runId certification =>
    match store.files.lookup runId with
    | none => none
    | some record =>
      if record.experimentId = runId then
        some (store.saveExperiment { record with determinismCertification := some certification })
      else none
  | .measure record =>
    if record.experimentId ∈ store.index.map RunIndexRow.experimentId then none
    else some (store.saveExperiment record)

/-- The call of an event that succeeds. -/
def accepted? : IndexEvent → Option FinalizedRun
  | .finalize call => if call.succeeds then some call else none
  | _ => none

/-- The calls that succeeded, in their order. -/
def accepted (events : List IndexEvent) : List FinalizedRun := events.filterMap accepted?

/-- `record` is `updated`, perhaps with other certificates. -/
def OnlyCertified (updated record : ExperimentResult) : Prop :=
  record = { updated with determinismCertification := record.determinismCertification }

/-- The experiment that a call is about. -/
def FinalizedRun.runId (call : FinalizedRun) : String := call.result.experimentId

/-! ## The joint invariant -/

/-- **The joint invariant.**  The index has the row of every successful call, in order; and the file of
each is the record of the call, perhaps with other certificates. -/
structure Joined (hexdigest : String → String) (events : List IndexEvent) (store : RunStore) :
    Prop where
  rows : List.Forall₂ (FinalizedRun.RowOf hexdigest) (accepted events) store.index
  files : ∀ call ∈ accepted events, ∃ record,
    store.files.lookup call.runId = some record ∧ OnlyCertified call.updated record

section Invariant

variable {hexdigest : String → String} {events : List IndexEvent} {store store' : RunStore}

theorem accepted_snoc (event : IndexEvent) :
    accepted (events ++ [event]) = accepted events ++ (accepted? event).toList := by
  rw [accepted, List.filterMap_append]
  cases hevent : accepted? event <;> simp [accepted, hevent]

theorem lookup_save_ne {record : ExperimentResult} {runId : String} (h : runId ≠ record.experimentId) :
    (store.saveExperiment record).files.lookup runId = store.files.lookup runId :=
  AList.lookup_insert_ne h

theorem lookup_save (record : ExperimentResult) :
    (store.saveExperiment record).files.lookup record.experimentId = some record :=
  AList.lookup_insert _

theorem FinalizedRun.RowOf.experimentId {call : FinalizedRun} {row : RunIndexRow}
    (h : FinalizedRun.RowOf hexdigest call row) : row.experimentId = call.runId := by
  rw [RowOf, indexRow] at h
  split at h
  · cases h
  · cases h
    rfl

/-- The rows name the calls. -/
theorem Joined.ids (h : Joined hexdigest events store) :
    store.index.map RunIndexRow.experimentId = (accepted events).map FinalizedRun.runId := by
  have hrows := h.rows
  generalize store.index = index at hrows ⊢
  generalize accepted events = calls at hrows ⊢
  induction hrows with
  | nil => rfl
  | cons hrow _ ih => rw [List.map_cons, List.map_cons, ih, hrow.experimentId]

/-- The file of a run that is not among the calls is replaced. -/
theorem Joined.save_other (h : Joined hexdigest events store) {record : ExperimentResult}
    (hother : record.experimentId ∉ (accepted events).map FinalizedRun.runId) :
    ∀ call ∈ accepted events, ∃ record',
      (store.saveExperiment record).files.lookup call.runId = some record' ∧
        OnlyCertified call.updated record' := by
  intro call hcall
  have hne : call.runId ≠ record.experimentId := fun heq ↦
    hother (heq ▸ List.mem_map_of_mem hcall)
  obtain ⟨record', hfile, hcertified⟩ := h.files call hcall
  exact ⟨record', (lookup_save_ne hne).trans hfile, hcertified⟩

theorem OnlyCertified.certify {updated record : ExperimentResult} (h : OnlyCertified updated record)
    (certification : AList fun _ : TaskId ↦ TaskCertification) :
    OnlyCertified updated { record with determinismCertification := some certification } := by
  rw [OnlyCertified] at h ⊢
  rw [h]

theorem OnlyCertified.experimentId {updated record : ExperimentResult}
    (h : OnlyCertified updated record) : record.experimentId = updated.experimentId := by
  rw [h]

/-- The files of the runs are told apart by their ids. -/
theorem Joined.certify (h : Joined hexdigest events store) {record : ExperimentResult}
    {runId : String} (hfile : store.files.lookup runId = some record)
    (hid : record.experimentId = runId) (certification : AList fun _ : TaskId ↦ TaskCertification) :
    Joined hexdigest events
      (store.saveExperiment { record with determinismCertification := some certification }) where
  rows := h.rows
  files call hcall := by
    obtain ⟨record', hfile', hcertified⟩ := h.files call hcall
    by_cases heq : call.runId = runId
    · rw [heq] at hfile' ⊢
      obtain rfl : record = record' := Option.some.inj (hfile.symm.trans hfile')
      subst hid
      exact ⟨_, lookup_save _, hcertified.certify certification⟩
    · refine ⟨record', (lookup_save_ne ?_).trans hfile', hcertified⟩
      exact fun h ↦ heq (h.trans hid)

/-- A successful call of a new run. -/
theorem Joined.finalize (h : Joined hexdigest events store) {call : FinalizedRun} {row : RunIndexRow}
    (hsucceeds : call.succeeds = true) (hrow : FinalizedRun.RowOf hexdigest call row)
    (hnew : call.runId ∉ (accepted events).map FinalizedRun.runId) :
    Joined hexdigest (events ++ [.finalize call])
      { store.saveExperiment call.updated with index := store.index ++ [row] } := by
  have haccepted : accepted (events ++ [.finalize call]) = accepted events ++ [call] := by
    rw [accepted_snoc, accepted?, if_pos hsucceeds]
    rfl
  constructor
  · rw [haccepted]
    exact List.rel_append h.rows (.cons hrow .nil)
  · have hothers := h.save_other (show call.updated.experimentId ∉ _ from hnew)
    rw [haccepted]
    refine List.forall_mem_append.mpr ⟨hothers, ?_⟩
    rw [List.forall_mem_singleton]
    exact ⟨call.updated, lookup_save _, rfl⟩

/-- Every event keeps the joint invariant, if no run is finalized twice. -/
theorem Joined.step {event : IndexEvent} (h : Joined hexdigest events store)
    (hids : ((accepted (events ++ [event])).map FinalizedRun.runId).Nodup)
    (hstep : RunStore.step hexdigest store event = some store') :
    Joined hexdigest (events ++ [event]) store' := by
  have hquiet : accepted? event = none → accepted (events ++ [event]) = accepted events := by
    intro hnone
    rw [accepted_snoc, hnone, Option.toList_none, List.append_nil]
  cases event with
  | finalize call =>
    obtain rfl := Option.some.inj hstep
    cases hsucceeds : call.succeeds with
    | true =>
      obtain ⟨row, hrow⟩ := exists_rowOf hexdigest hsucceeds
      rw [exec_record hrow]
      refine h.finalize hsucceeds hrow fun hmem ↦ ?_
      rw [accepted_snoc, accepted?, if_pos hsucceeds, List.map_append] at hids
      exact (List.disjoint_of_nodup_append hids) hmem (List.mem_singleton.mpr rfl)
    | false =>
      obtain ⟨text, hexec⟩ := exec_record_error hexdigest hsucceeds store
      have hnone : accepted? (.finalize call) = none := if_neg (by simp [hsucceeds])
      rw [hexec]
      exact ⟨by rw [hquiet hnone]; exact h.rows, by rw [hquiet hnone]; exact h.files⟩
  | certify runId certification =>
    rw [RunStore.step] at hstep
    split at hstep
    · cases hstep
    next record hfile =>
    split at hstep
    · next hid =>
      obtain rfl := Option.some.inj hstep
      have hcertified := h.certify hfile hid certification
      exact ⟨by rw [hquiet rfl]; exact hcertified.rows, by rw [hquiet rfl]; exact hcertified.files⟩
    · cases hstep
  | measure record =>
    rw [RunStore.step, h.ids] at hstep
    split at hstep
    · cases hstep
    · next hother =>
      obtain rfl := Option.some.inj hstep
      exact ⟨by rw [hquiet rfl]; exact h.rows, by rw [hquiet rfl]; exact h.save_other hother⟩

theorem nodup_ids_before {before after : List IndexEvent}
    (hids : ((accepted (before ++ after)).map FinalizedRun.runId).Nodup) :
    ((accepted before).map FinalizedRun.runId).Nodup := by
  rw [accepted, List.filterMap_append, List.map_append] at hids
  exact (List.nodup_append.mp hids).1

/-- The joint invariant holds after every history. -/
theorem run_joined (hindex : store.index = [])
    (hids : ((accepted events).map FinalizedRun.runId).Nodup)
    (h : run (RunStore.step hexdigest) store events = some store') :
    Joined hexdigest events store' := by
  refine run_invariant (I := fun events store ↦
    ((accepted events).map FinalizedRun.runId).Nodup → Joined hexdigest events store) ?_ ?_ h hids
  · intro _
    refine ⟨?_, fun call hcall ↦ by cases hcall⟩
    rw [hindex]
    exact .nil
  · intro events middle event next ih hstep hids
    exact (ih (nodup_ids_before hids)).step hids hstep

/-- The index only grows. -/
theorem index_grows {event : IndexEvent} (hstep : RunStore.step hexdigest store event = some store') :
    store.index <+: store'.index := by
  cases event with
  | finalize call =>
    obtain rfl := Option.some.inj hstep
    cases hsucceeds : call.succeeds with
    | true =>
      obtain ⟨row, hrow⟩ := exists_rowOf hexdigest hsucceeds
      rw [exec_record hrow]
      exact ⟨[row], rfl⟩
    | false =>
      obtain ⟨text, hexec⟩ := exec_record_error hexdigest hsucceeds store
      rw [hexec]
  | certify runId certification =>
    rw [RunStore.step] at hstep
    split at hstep
    · cases hstep
    split at hstep
    · obtain rfl := Option.some.inj hstep
      exact List.prefix_refl _
    · cases hstep
  | measure record =>
    rw [RunStore.step] at hstep
    split at hstep
    · cases hstep
    · obtain rfl := Option.some.inj hstep
      exact List.prefix_refl _

end Invariant

/-! ## What a row says -/

/-- A row and an experiment file say the same. -/
structure Agrees (hexdigest : String → String) (row : RunIndexRow) (record : ExperimentResult) :
    Prop where
  kind : record.kind = some row.kind
  commit : record.gitCommitHash = row.gitCommitHash
  identity : record.measurementIdentity.digest hexdigest = row.measurementIdentityDigest
  parent : record.parentCommitHash = row.parentCommitHash
  baseline : record.baselineExperimentId = row.baselineExperimentId
  startedAt : record.startedAt = row.startedAt
  finishedAt : record.finishedAt = some row.finishedAt
  crashReason : record.crashReason = row.crashReason
  solved : (solvedTaskIds record).card = row.solved
  verdict : record.decision.map ResultDecision.outcome = row.verdict
  reason : record.decision.map ResultDecision.reason = row.reason

section Rows

variable {hexdigest : String → String} {call : FinalizedRun} {row : RunIndexRow}
  {record : ExperimentResult}

theorem FinalizedRun.RowOf.agrees (h : FinalizedRun.RowOf hexdigest call row)
    (hcertified : OnlyCertified call.updated record) : Agrees hexdigest row record := by
  rw [RowOf, indexRow] at h
  split at h
  · cases h
  next finishedAt hfinished =>
  cases h
  rw [hcertified]
  exact ⟨rfl, rfl, rfl, rfl, rfl, rfl, hfinished, rfl, rfl, rfl, rfl⟩

/-- A successful call for a finished baseline of a commit under an identity. -/
def FinalizedRun.isBaselineOf (hexdigest : String → String) (commit : Sha) (digest : String)
    (call : FinalizedRun) : Bool :=
  call.kind = .baseline ∧ call.result.crashReason = none ∧ call.result.gitCommitHash = commit ∧
    call.result.measurementIdentity.digest hexdigest = digest

/-- The file of a valid record is read back. -/
theorem check_of_onlyCertified (hcertified : OnlyCertified call.updated record) :
    record.check = .ok () := by
  rw [hcertified]
  exact call.valid

/-- The first of two related lists that meet the same test. -/
theorem find?_related {α β : Type} {R : α → β → Prop} {p : α → Bool} {q : β → Bool} {xs : List α}
    {ys : List β} (h : List.Forall₂ R xs ys) (hpq : ∀ x y, R x y → p x = q y) :
    Option.Rel R (xs.find? p) (ys.find? q) := by
  induction h with
  | nil => exact .none
  | @cons x y xs ys hxy _ ih =>
    rw [List.find?_cons, List.find?_cons, ← hpq x y hxy]
    cases p x with
    | true => exact .some hxy
    | false => exact ih

theorem FinalizedRun.RowOf.isBaseline (h : FinalizedRun.RowOf hexdigest call row) (commit : Sha)
    (digest : String) : call.isBaselineOf hexdigest commit digest =
      decide (row.kind = .baseline ∧ row.crashReason = none ∧ row.gitCommitHash = commit ∧
        row.measurementIdentityDigest = digest) := by
  rw [RowOf, indexRow] at h
  split at h
  · cases h
  · cases h
    rfl

end Rows

section Lookup

variable {hexdigest : String → String} {events : List IndexEvent} {store : RunStore}

/-- The last finished baseline of a commit under an identity, among the calls that succeeded. -/
def lastBaseline (hexdigest : String → String) (events : List IndexEvent) (commit : Sha)
    (digest : String) : Option FinalizedRun :=
  ((accepted events).filter (FinalizedRun.isBaselineOf hexdigest commit digest)).getLast?

/-- The lookup finds the row of that call, and loads the file of its run. -/
theorem Joined.latest (h : Joined hexdigest events store) (commit : Sha) (digest : String) :
    match lastBaseline hexdigest events commit digest with
    | none => store.latestCompletedBaseline commit digest = .ok none
    | some call => ∃ record, store.files.lookup call.runId = some record ∧
        OnlyCertified call.updated record ∧
        store.latestCompletedBaseline commit digest = .ok (some record) := by
  have hrelated := find?_related (List.forall₂_reverse_iff.mpr h.rows)
    fun call row hrow ↦ hrow.isBaseline commit digest
  have hlast : lastBaseline hexdigest events commit digest =
      (accepted events).reverse.find? (FinalizedRun.isBaselineOf hexdigest commit digest) :=
    List.getLast?_filter
  rw [hlast, latestCompletedBaseline]
  cases hfound : (accepted events).reverse.find? (FinalizedRun.isBaselineOf hexdigest commit digest) with
  | none =>
    rw [hfound] at hrelated
    cases hrow : store.index.reverse.find? _ with
    | none => rfl
    | some row =>
      rw [hrow] at hrelated
      cases hrelated
  | some call =>
    rw [hfound] at hrelated
    have hcall : call ∈ accepted events := List.mem_reverse.mp (List.mem_of_find?_eq_some hfound)
    obtain ⟨record, hfile, hcertified⟩ := h.files call hcall
    refine ⟨record, hfile, hcertified, ?_⟩
    cases hrow : store.index.reverse.find? _ with
    | none =>
      rw [hrow] at hrelated
      cases hrelated
    | some row =>
      rw [hrow] at hrelated
      obtain ⟨hrelated⟩ := hrelated
      dsimp only
      rw [loadExperiment, hrelated.experimentId, hfile]
      dsimp only
      rw [check_of_onlyCertified hcertified]
      rfl

end Lookup

/-! ## Any history -/

/-- **The run index and the experiment files are consistent.** -/
theorem index_consistent (hexdigest : String → String) {start store : RunStore}
    (hstart : start.index = []) (events : List IndexEvent)
    (hids : ((accepted events).map FinalizedRun.runId).Nodup)
    (h : run (RunStore.step hexdigest) start events = some store) :
    -- one row for each successful call, in the order of the calls
    List.Forall₂ (FinalizedRun.RowOf hexdigest) (accepted events) store.index ∧
    -- rows are only appended
    (∀ before after middle, events = before ++ after →
      run (RunStore.step hexdigest) start before = some middle → middle.index <+: store.index) ∧
    -- a call fails exactly when its row does not validate, and then it changes nothing
    (∀ call middle, (∃ text, exec (FinalizedRun.record hexdigest call) middle = (.error text, middle) ∧
        accepted? (.finalize call) = none) ∨
      ∃ left, exec (FinalizedRun.record hexdigest call) middle = (.ok call.updated, left) ∧
        accepted? (.finalize call) = some call) ∧
    -- a row agrees with its file
    (∀ row ∈ store.index, ∃ record,
      store.files.lookup row.experimentId = some record ∧ Agrees hexdigest row record) ∧
    -- the latest baseline is that of the last call
    ∀ commit digest, match lastBaseline hexdigest events commit digest with
      | none => store.latestCompletedBaseline commit digest = .ok none
      | some call => ∃ record, store.files.lookup call.runId = some record ∧
          OnlyCertified call.updated record ∧
          store.latestCompletedBaseline commit digest = .ok (some record) := by
  have hjoined := run_joined hstart hids h
  refine ⟨hjoined.rows, ?_, fun call middle ↦ ?_, fun row hrow ↦ ?_, hjoined.latest⟩
  · rintro before after middle rfl hmiddle
    obtain ⟨middle', hbefore, hafter⟩ := run_split h
    obtain rfl : middle' = middle := Option.some.inj (hbefore.symm.trans hmiddle)
    exact run_invariant (I := fun _ store ↦ middle'.index <+: store.index) (List.prefix_refl _)
      (fun _ _ _ _ hprefix hstep ↦ hprefix.trans (index_grows hstep)) hafter
  · cases hsucceeds : call.succeeds with
    | true =>
      obtain ⟨row, hrow⟩ := exists_rowOf hexdigest hsucceeds
      exact Or.inr ⟨_, exec_record hrow middle, if_pos hsucceeds⟩
    | false =>
      obtain ⟨text, hexec⟩ := exec_record_error hexdigest hsucceeds middle
      exact Or.inl ⟨text, hexec, if_neg (by simp [hsucceeds])⟩
  · obtain ⟨call, hcall, hrowOf⟩ : ∃ call ∈ accepted events, FinalizedRun.RowOf hexdigest call row := by
      have hrows := hjoined.rows
      generalize store.index = index at hrow hrows
      generalize accepted events = calls at hrows ⊢
      induction hrows with
      | nil => cases hrow
      | cons hfirst _ ih =>
        rcases List.mem_cons.mp hrow with rfl | hrow
        · exact ⟨_, List.mem_cons_self, hfirst⟩
        · obtain ⟨call, hcall, hrowOf⟩ := ih hrow
          exact ⟨call, List.mem_cons_of_mem _ hcall, hrowOf⟩
    obtain ⟨record, hfile, hcertified⟩ := hjoined.files call hcall
    exact ⟨record, hrowOf.experimentId ▸ hfile, hrowOf.agrees hcertified⟩

/-! ## A baseline and a candidate -/

/-- A run of no tasks. -/
def emptyRun (experimentId : String) (finishedAt : Option Timestamp) : ExperimentResult where
  experimentId := experimentId
  gitCommitHash := "sha"
  measurementIdentity := ⟨"config", "provider", "replay"⟩
  finishedAt := finishedAt
  tasks := ∅

def finishedBaseline : FinalizedRun where
  result := emptyRun "baseline" (some 1)
  valid := rfl
  kind := .baseline

/-- A run without a finish stamp. -/
def openCandidate : FinalizedRun where
  result := emptyRun "candidate" none
  valid := rfl
  kind := .candidate

theorem index_consistent_baseline : ∃ store,
    run (RunStore.step id) {} [.measure (emptyRun "candidate" none), .finalize finishedBaseline,
      .finalize openCandidate, .certify "baseline" ∅] = some store ∧
    List.Forall₂ (FinalizedRun.RowOf id) [finishedBaseline] store.index :=
  ⟨_, rfl, (index_consistent id (rfl : ({} : RunStore).index = []) [.measure (emptyRun "candidate" none),
    .finalize finishedBaseline, .finalize openCandidate, .certify "baseline" ∅] (by decide) rfl).1⟩

end RunStore

end HarnessTraining
