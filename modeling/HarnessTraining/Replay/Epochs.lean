import HarnessTraining.Replay.Completeness
import HarnessTraining.Rollout.Identity

/-!
# Epochs

The `counters` table of `src/plugins/caching/store.py`, the operator's `bump_epoch` and
`resolve_scope` of `src/plugins/replay/contract.py`, over one database that any number of rollouts
share.

* `same_scope_iff` — two scopes of a task agree when exactly its epoch was not counted on in between.
* `epoch_fence` — after an epoch was counted on, nothing is served that was recorded before.
* `identity_pins_epochs` — when two identities agree, whatever was resolved in between has the scope
  that both of them name.
-/

set_option autoImplicit false

namespace HarnessTraining

open SharedStore

/-! ## Counters -/

/-- `epoch_counter_key`. -/
def epochCounterKey (replayNamespace : String) : String := "env:epoch:" ++ replayNamespace

theorem epochCounterKey_inj {replayNamespace replayNamespace' : String} :
    epochCounterKey replayNamespace = epochCounterKey replayNamespace' ↔
      replayNamespace = replayNamespace' := by
  refine ⟨fun h ↦ ?_, fun h ↦ by rw [h]⟩
  have happend := congrArg String.toList h
  rw [epochCounterKey, epochCounterKey, String.toList_append, String.toList_append] at happend
  exact String.toList_inj.mp (List.append_cancel_left happend)

/-- The `counters` table.  Its keys are unique. -/
structure Counters where
  rows : List (String × ℤ) := []
  unique : (rows.map Prod.fst).Nodup := by decide

namespace Counters

/-- `_get_counter`. -/
def getCounter (counters : Counters) (key : String) : ℤ := (counters.rows.lookup key).getD 0

/-- The row of a key, counted on. -/
def countRow (key : String) (row : String × ℤ) : String × ℤ :=
  if row.1 = key then (row.1, row.2 + 1) else row

theorem map_fst_countRow (key : String) (rows : List (String × ℤ)) :
    (rows.map (countRow key)).map Prod.fst = rows.map Prod.fst := by
  rw [List.map_map]
  refine List.map_congr_left fun row _ ↦ ?_
  rw [Function.comp_apply, countRow]
  split <;> rfl

/-- `INSERT ... VALUES(?, 1) ON CONFLICT(key) DO UPDATE SET value=value + 1`. -/
def count (counters : Counters) (key : String) : Counters :=
  if h : key ∈ counters.rows.map Prod.fst then
    { rows := counters.rows.map (countRow key)
      unique := by
        rw [map_fst_countRow]
        exact counters.unique }
  else
    { rows := counters.rows ++ [(key, 1)]
      unique := by
        rw [List.map_append]
        exact counters.unique.append (List.nodup_singleton key) (by simpa using h) }

/-- `main` of `bump_epoch`: what it prints, and the table that it leaves. -/
def bumpEpoch (counters : Counters) (replayNamespace : String) : (ℤ × ℤ) × Counters :=
  let counters' := counters.count (epochCounterKey replayNamespace)
  let new := counters'.getCounter (epochCounterKey replayNamespace)
  ((new - 1, new), counters')

theorem lookup_map_countRow (key key' : String) (rows : List (String × ℤ)) :
    (rows.map (countRow key)).lookup key' =
      (rows.lookup key').map fun value ↦ if key' = key then value + 1 else value := by
  induction rows with
  | nil => rfl
  | cons row rows ih =>
    obtain ⟨name, value⟩ := row
    have hname : (countRow key (name, value)).1 = name := by
      rw [countRow]
      split <;> rfl
    rw [List.map_cons, List.lookup_cons, List.lookup_cons, hname]
    by_cases hkey : key' = name
    · subst hkey
      simp only [BEq.rfl, Option.map_some, countRow]
      split <;> rfl
    · simp only [beq_false_of_ne hkey, ih]

/-- A key counts on, and no other one does. -/
theorem getCounter_count (counters : Counters) (key key' : String) :
    (counters.count key).getCounter key' =
      counters.getCounter key' + if key' = key then 1 else 0 := by
  unfold count getCounter
  split
  · next hmem =>
    rw [lookup_map_countRow]
    cases hvalue : counters.rows.lookup key' with
    | none =>
      have hkey : key' ≠ key := by
        rintro rfl
        obtain ⟨row, hrow, hname⟩ := List.mem_map.mp hmem
        exact absurd (List.lookup_eq_none_iff.mp hvalue row hrow) (by simp [hname])
      simp [hkey]
    | some value =>
      rw [Option.map_some, Option.getD_some, Option.getD_some]
      split
      · rfl
      · exact (add_zero value).symm
  · next hmem =>
    dsimp only
    rw [List.lookup_append]
    cases hvalue : counters.rows.lookup key' with
    | none =>
      rw [Option.none_or, List.lookup_cons]
      split <;> simp_all
    | some value =>
      have hkey : key' ≠ key := by
        rintro rfl
        exact hmem (List.mem_map_of_mem (lookup_eq_some_mem hvalue))
      simp [hkey]

/-- The operator is told the epoch as it was and as it is. -/
theorem bumpEpoch_prints (counters : Counters) (replayNamespace : String) :
    (counters.bumpEpoch replayNamespace).1 =
      (counters.getCounter (epochCounterKey replayNamespace),
        (counters.bumpEpoch replayNamespace).2.getCounter (epochCounterKey replayNamespace)) := by
  simp [bumpEpoch, getCounter_count]

end Counters

/-- `resolve_scope`. -/
def resolveScope (counters : Counters) (contentId : Option String) : Option ReplayScope :=
  (namespaceFor contentId).map fun replayNamespace ↦
    ⟨replayNamespace, counters.getCounter (epochCounterKey replayNamespace)⟩

theorem namespaceFor_inj {contentId contentId' : Option String} :
    namespaceFor contentId = namespaceFor contentId' ↔ contentId = contentId' := by
  refine ⟨fun h ↦ ?_, fun h ↦ by rw [h]⟩
  refine Option.map_injective (fun id id' hid ↦ ?_) h
  have happend := congrArg String.toList hid
  rw [String.toList_append, String.toList_append, String.toList_append, String.toList_append] at happend
  exact String.toList_inj.mp (List.append_cancel_left happend)

/-! ## Histories -/

/-- One deed of a history of the database.  A scope is resolved for a rollout that is about to begin,
or for a fingerprint; a read of a counter that fails raises. -/
inductive Deed (ι A : Type) where
  | bumped (replayNamespace : String)
  | resolved (party : Option ι) (contentId : Option String)
      (answer : Except String (Option ReplayScope))
  | cache (occurrence : Occurrence ι (Event A))

section Epochs

variable {ι A : Type}

/-- What happens to the `cache` table. -/
def cached (history : List (Deed ι A)) : List (Occurrence ι (Event A)) :=
  history.filterMap fun
    | .cache occurrence => some occurrence
    | _ => none

/-- The `counters` table after one more deed. -/
def Deed.counted (counters : Counters) : Deed ι A → Counters
  | .bumped replayNamespace => (counters.bumpEpoch replayNamespace).2
  | _ => counters

/-- The `counters` table after a history. -/
def countersAfter (history : List (Deed ι A)) : Counters := history.foldl Deed.counted {}

/-- The epoch of a namespace after a history. -/
def epochAfter (history : List (Deed ι A)) (replayNamespace : String) : ℤ :=
  (countersAfter history).getCounter (epochCounterKey replayNamespace)

/-- Whether a deed counts the epoch of a namespace on. -/
def Deed.bumps (replayNamespace : String) : Deed ι A → Bool
  | .bumped replayNamespace' => replayNamespace' = replayNamespace
  | _ => false

variable {history before middle after : List (Deed ι A)} {replayNamespace : String}

theorem Deed.bumps_bumped : (Deed.bumped replayNamespace : Deed ι A).bumps replayNamespace = true :=
  decide_eq_true rfl

theorem cached_append (before after : List (Deed ι A)) :
    cached (before ++ after) = cached before ++ cached after := List.filterMap_append

theorem mem_cached {occurrence : Occurrence ι (Event A)} :
    occurrence ∈ cached history ↔ .cache occurrence ∈ history := by
  rw [cached, List.mem_filterMap]
  constructor
  · rintro ⟨deed, hmem, hdeed⟩
    cases deed with
    | cache occurrence' =>
      obtain rfl := Option.some.inj hdeed
      exact hmem
    | _ => cases hdeed
  · intro hmem
    exact ⟨_, hmem, rfl⟩

theorem cached_map_cache (occurrences : List (Occurrence ι (Event A))) :
    cached (occurrences.map .cache) = occurrences := by
  rw [cached, List.filterMap_map]
  exact List.filterMap_some

theorem epochAfter_snoc (history : List (Deed ι A)) (deed : Deed ι A) (replayNamespace : String) :
    epochAfter (history ++ [deed]) replayNamespace =
      epochAfter history replayNamespace + if deed.bumps replayNamespace then 1 else 0 := by
  rw [epochAfter, countersAfter, List.foldl_concat]
  cases deed with
  | bumped replayNamespace' =>
    refine (Counters.getCounter_count _ _ _).trans (congrArg _ ?_)
    simp only [epochCounterKey_inj, Deed.bumps, decide_eq_true_eq]
    exact if_congr eq_comm rfl rfl
  | _ => exact (add_zero _).symm

/-- An epoch is how often it was counted on. -/
theorem epochAfter_append (before after : List (Deed ι A)) (replayNamespace : String) :
    epochAfter (before ++ after) replayNamespace =
      epochAfter before replayNamespace + after.countP (Deed.bumps replayNamespace) := by
  induction after using List.reverseRecOn with
  | nil => simp
  | append_singleton after deed ih =>
    rw [← List.append_assoc, epochAfter_snoc, ih, List.countP_append, List.countP_singleton,
      Nat.cast_add, add_assoc]
    split <;> rfl

theorem epochAfter_le (before after : List (Deed ι A)) (replayNamespace : String) :
    epochAfter before replayNamespace ≤ epochAfter (before ++ after) replayNamespace := by
  rw [epochAfter_append]
  omega

/-- An epoch stays when exactly nobody counts it on. -/
theorem epochAfter_eq_iff : epochAfter (before ++ middle) replayNamespace =
    epochAfter before replayNamespace ↔ .bumped replayNamespace ∉ middle := by
  rw [epochAfter_append, add_eq_left, Int.natCast_eq_zero, List.countP_eq_zero]
  constructor
  · intro h hmem
    exact h _ hmem Deed.bumps_bumped
  · rintro h (replayNamespace' | _ | _) hmem hbumps
    · obtain rfl := of_decide_eq_true hbumps
      exact h hmem
    · cases hbumps
    · cases hbumps

theorem resolveScope_epoch {contentId : Option String} {scope : ReplayScope}
    (h : resolveScope (countersAfter history) contentId = some scope) :
    namespaceFor contentId = some scope.replayNamespace ∧
      scope.epoch = epochAfter history scope.replayNamespace := by
  obtain ⟨replayNamespace, hnamespace, rfl⟩ := Option.map_eq_some_iff.mp h
  exact ⟨hnamespace, rfl⟩

/-- Two scopes of a task agree when exactly its epoch was not counted on in between. -/
theorem resolveScope_append_iff {contentId contentId' : Option String} :
    resolveScope (countersAfter before) contentId =
        resolveScope (countersAfter (before ++ middle)) contentId' ↔
      contentId = contentId' ∧
        ∀ replayNamespace ∈ namespaceFor contentId, .bumped replayNamespace ∉ middle := by
  rw [← namespaceFor_inj, resolveScope, resolveScope]
  constructor
  · intro h
    have hnamespace : namespaceFor contentId = namespaceFor contentId' := by
      have hnames := congrArg (Option.map ReplayScope.replayNamespace) h
      rwa [Option.map_map, Option.map_map, Function.comp_def, Function.comp_def, Option.map_id',
        Option.map_id'] at hnames
    refine ⟨hnamespace, fun replayNamespace hmem ↦ ?_⟩
    rw [← hnamespace, Option.mem_def.mp hmem] at h
    have hepoch := congrArg ReplayScope.epoch (Option.some.inj h)
    exact epochAfter_eq_iff.mp hepoch.symm
  · rintro ⟨hnamespace, hkept⟩
    rw [← hnamespace]
    refine Option.map_congr fun replayNamespace hmem ↦ ?_
    rw [ReplayScope.mk.injEq]
    exact ⟨rfl, (epochAfter_eq_iff.mpr (hkept replayNamespace hmem)).symm⟩

end Epochs

/-! ## The fence -/

/-- A scope is resolved from the counters as they are, and a rollout begins when its scope has been
resolved. -/
structure Sequenced {ι A : Type} (rollouts : ι → ReplayedRollout A) (history : List (Deed ι A)) :
    Prop where
  resolves : ∀ before party contentId scope after,
    history = before ++ .resolved party contentId (.ok scope) :: after →
    scope = resolveScope (countersAfter before) contentId
  begins : ∀ before i event after, history = before ++ .cache (.exchange i event) :: after →
    ∃ contentId, .resolved (some i) contentId (.ok (some (rollouts i).scope)) ∈ before

/-- Rollouts under the step cache over one database. -/
structure Fenced {ι A : Type} [DecidableEq ι] (u : Unicode) (hexdigest : Hexdigest)
    (rollouts : ι → ReplayedRollout A) (history : List (Deed ι A)) : Prop
    extends Sequenced rollouts history where
  shared : Shared u hexdigest rollouts (cached history)

section Fence

variable {ι A : Type} {u : Unicode} {hexdigest : Hexdigest} {rollouts : ι → ReplayedRollout A}
  {history before middle after : List (Deed ι A)} {scope scope' : ReplayScope}

/-- A row or a marker of a scope is put by a rollout of that scope. -/
theorem EventOk.scope_of_put {trace : List (Event A)} {actions : List EnvAction} {key value : String}
    {answer : Answer Unit} (h : EventOk u hexdigest scope trace (.put key value answer))
    (hkey : key = stepKey hexdigest scope' actions ∨
      key = blockedKey (stepKey hexdigest scope' actions)) : scope' = scope := by
  rcases hkey with rfl | rfl
  · exact h.recorded.1
  · generalize hevent : Event.put (blockedKey (stepKey hexdigest scope' actions)) value answer = event
      at h
    cases h with
    | other event hother =>
      rw [← hevent] at hother
      cases hother
    | mark actions' result answer' hserved =>
      obtain ⟨hkey, -, -⟩ := Event.put.inj hevent
      exact (stepKey_inj.mp (blockedKey_inj.mp hkey)).1
    | record first action result answer' hrecorded =>
      obtain ⟨hkey, -, -⟩ := Event.put.inj hevent
      exact absurd hkey (blockedKey_ne_stepKey _)
    | _ => cases hevent

variable [DecidableEq ι] (h : Fenced u hexdigest rollouts history)

include h

/-- **Scopes of a task agree when exactly its epoch was not counted on in between.** -/
theorem Fenced.same_scope_iff {party party' : Option ι} {contentId contentId' : Option String}
    {scope scope' : Option ReplayScope}
    (hhistory : history = before ++ .resolved party contentId (.ok scope) :: middle ++
      .resolved party' contentId' (.ok scope') :: after) :
    scope = scope' ↔ contentId = contentId' ∧
      ∀ replayNamespace ∈ namespaceFor contentId, .bumped replayNamespace ∉ middle := by
  have hscope := h.resolves before party contentId scope _
    (hhistory.trans (by rw [List.append_assoc, List.cons_append]))
  have hscope' := h.resolves _ party' contentId' scope' after hhistory
  rw [hscope, hscope', resolveScope_append_iff]
  simp

/-- A rollout of an epoch to come has done nothing. -/
theorem Fenced.not_begun (hhistory : history = before ++ after) {i : ι}
    (hepoch : epochAfter before (rollouts i).scope.replayNamespace < (rollouts i).scope.epoch)
    (event : Event A) : .cache (.exchange i event) ∉ before := by
  intro hmem
  obtain ⟨first, rest, rfl⟩ := List.append_of_mem hmem
  obtain ⟨contentId, hresolved⟩ := h.begins first i event (rest ++ after)
    (hhistory.trans (by rw [List.append_assoc, List.cons_append]))
  obtain ⟨first, rest', rfl⟩ := List.append_of_mem hresolved
  have hscope := h.resolves first _ contentId _ _ (hhistory.trans (by
    rw [List.append_assoc, List.append_assoc, List.cons_append]))
  have hle := epochAfter_le first (.resolved (some i) contentId (.ok (some (rollouts i).scope)) ::
    rest' ++ .cache (.exchange i event) :: rest) (rollouts i).scope.replayNamespace
  rw [(resolveScope_epoch hscope.symm).2, List.append_assoc] at hepoch
  exact absurd hle (not_le_of_gt hepoch)

/-- A scope of an epoch to come has neither a row nor a marker. -/
theorem Fenced.unwritten (hhistory : history = before ++ after)
    (hepoch : epochAfter before scope.replayNamespace < scope.epoch) {actions : List EnvAction}
    {key : String}
    (hkey : key = stepKey hexdigest scope actions ∨ key = blockedKey (stepKey hexdigest scope actions)) :
    stored storeAccess (cached before) key = none := by
  rw [Option.eq_none_iff_forall_ne_some]
  intro value hstored
  have hcached : cached history = cached before ++ cached after := by rw [hhistory, cached_append]
  obtain ⟨i, event, first, rest, hfirst, hshorter, acknowledged, hput⟩ :=
    h.shared.store.put hcached hstored
  obtain ⟨answer, rfl⟩ := exists_put hput
  obtain rfl : scope = (rollouts i).scope := (h.shared.lawful hfirst).scope_of_put hkey
  refine h.not_begun hhistory hepoch (.put key value answer) (mem_cached.mp ?_)
  rcases List.append_eq_append_iff.mp (hcached.symm.trans hfirst) with
    ⟨more, rfl, -⟩ | ⟨more, hbefore, hmore⟩
  · rw [List.length_append] at hshorter
    omega
  · rw [hbefore] at hshorter ⊢
    cases more with
    | nil =>
      rw [List.append_nil] at hshorter
      exact absurd hshorter (lt_irrefl _)
    | cons occurrence more =>
      obtain ⟨rfl, -⟩ := List.cons.inj hmore
      exact List.mem_append_right _ List.mem_cons_self

/-- **An epoch is a fence.**  After the epoch of a namespace was counted on, a rollout that resolves
its scope finds no row and no marker from before: whatever is served to it was executed and recorded
since, by a rollout of the same scope that had done nothing until then. -/
theorem Fenced.epoch_fence {i : ι} {contentId : Option String}
    (hhistory : history = before ++ .bumped (rollouts i).scope.replayNamespace :: middle ++
      .resolved (some i) contentId (.ok (some (rollouts i).scope)) :: after) :
    (∀ actions, stored storeAccess (cached before) (stepKey hexdigest (rollouts i).scope actions) = none ∧
      ¬Marked hexdigest (rollouts i).scope (cached before) actions) ∧
    ∀ earlier actions result, Serves hexdigest rollouts (cached history) i earlier actions result →
      ∃ j first action answer since rest, actions = first ++ [action] ∧
        (rollouts j).scope = (rollouts i).scope ∧ projection j (cached before) = [] ∧
        cached history = cached before ++ since ++ .exchange j (.put
          (stepKey hexdigest (rollouts i).scope actions) (serializeStepResult result) answer) :: rest ∧
        Recorded u hexdigest (rollouts i).scope (projection j since) first action result := by
  have hsplit : history = before ++ (.bumped (rollouts i).scope.replayNamespace :: middle ++
      .resolved (some i) contentId (.ok (some (rollouts i).scope)) :: after) := by
    rw [hhistory, List.append_assoc]
  have hepoch : epochAfter before (rollouts i).scope.replayNamespace < (rollouts i).scope.epoch := by
    have hscope := h.resolves _ _ contentId _ after hhistory
    have hcounted := epochAfter_append before (.bumped (rollouts i).scope.replayNamespace :: middle)
      (rollouts i).scope.replayNamespace
    rw [← (resolveScope_epoch hscope.symm).2, List.countP_cons_of_pos Deed.bumps_bumped]
      at hcounted
    omega
  refine ⟨fun actions ↦ ⟨h.unwritten hsplit hepoch (Or.inl rfl), ?_⟩, ?_⟩
  · rintro ⟨value, hvalue⟩
    cases (h.unwritten hsplit hepoch (Or.inr rfl)).symm.trans hvalue
  · rintro earlier actions result ⟨text, rest, hread, hresult⟩
    obtain ⟨j, event, first, rest', hfirst, -, acknowledged, hput⟩ := h.shared.store.origin hread rfl
    obtain ⟨answer, rfl⟩ := exists_put hput
    obtain ⟨hscope, start, action, result', rfl, rfl, hrecorded⟩ := (h.shared.lawful hfirst).recorded
    rw [deserialize_serialize] at hresult
    obtain rfl := Option.some.inj hresult
    have hidle : ∀ event, .cache (.exchange j event) ∉ before := fun event ↦
      h.not_begun hsplit (hscope ▸ hepoch) event
    have hnothing : projection j (cached before) = [] :=
      List.eq_nil_iff_forall_not_mem.mpr fun event hmem ↦
        hidle event (mem_cached.mp (mem_projection.mp hmem))
    -- the row was not put before the epoch was counted on
    have hcached : cached before ++ cached _ = _ :=
      (cached_append before _).symm.trans ((congrArg cached hsplit.symm).trans hfirst)
    obtain ⟨since, rfl⟩ : cached before <+: first := by
      rcases List.append_eq_append_iff.mp hcached with ⟨since, rfl, -⟩ | ⟨more, hbefore, hmore⟩
      · exact ⟨since, rfl⟩
      · cases more with
        | nil => exact ⟨[], hbefore ▸ by simp⟩
        | cons occurrence more =>
          obtain ⟨rfl, -⟩ := List.cons.inj hmore
          have hmem : .exchange j (.put (stepKey hexdigest (rollouts i).scope (start ++ [action]))
              (serializeStepResult result') answer) ∈ cached before := by
            rw [hbefore]
            exact List.mem_append_right _ List.mem_cons_self
          exact absurd (mem_cached.mp hmem) (hidle _)
    rw [projection_append, hnothing, List.nil_append, ← hscope] at hrecorded
    exact ⟨j, start, action, answer, since, rest', rfl, hscope.symm, hnothing, hfirst, hrecorded⟩

end Fence

/-! ## Identities -/

section Identities

variable {ι A : Type} {u : Unicode} {hexdigest : Hexdigest} {rollouts : ι → ReplayedRollout A}
  {history before first between second after : List (Deed ι A)}
  {payloads payloads' : DeterminismPayloads} {epoch epoch' : String → ℤ}
  {config config' : RunConfig} {override override' : Option String}

/-- `fingerprint`: within a stretch of a history, the scope of each task of a panel is resolved at
some moment. -/
def Fingerprinted (hexdigest : Hexdigest) (payloads : DeterminismPayloads) (epoch : String → ℤ)
    (config : RunConfig) (stretch : List (Deed ι A)) : Prop :=
  ∀ task ∈ config.environment.taskNames,
    .resolved none (contentId hexdigest payloads config.environment.kind task)
      (.ok ((Execution.replay payloads epoch).scope hexdigest config.environment.kind task)) ∈ stretch

variable [DecidableEq ι] (h : Fenced u hexdigest rollouts history)

include h

/-- Within a stretch in which its epoch is not counted on, a task has one scope. -/
theorem Fenced.steady (hhistory : history = before ++ between ++ after) {party : Option ι}
    {id : Option String} {scope : Option ReplayScope}
    (hkept : ∀ replayNamespace ∈ namespaceFor id, .bumped replayNamespace ∉ between)
    (hmem : .resolved party id (.ok scope) ∈ between) :
    scope = resolveScope (countersAfter before) id := by
  obtain ⟨start, rest, rfl⟩ := List.append_of_mem hmem
  have hscope : scope = resolveScope (countersAfter (before ++ start)) id :=
    h.resolves _ party id scope (rest ++ after) (by rw [hhistory]; simp)
  rw [hscope]
  refine (resolveScope_append_iff.mpr ⟨rfl, fun replayNamespace hnamespace hbumped ↦ ?_⟩).symm
  exact hkept replayNamespace hnamespace (List.mem_append_left _ hbumped)

/-- Between two moments at which a task has one scope, it has no other. -/
theorem Fenced.pinned (hhistory : history = before ++ first ++ between ++ second ++ after)
    {party party' : Option ι} {id id' : Option String} {scope : Option ReplayScope}
    (hfirst : .resolved party id (.ok scope) ∈ first)
    (hsecond : .resolved party' id' (.ok scope) ∈ second) :
    (∀ replayNamespace ∈ namespaceFor id, .bumped replayNamespace ∉ between) ∧
      ∀ party scope', .resolved party id (.ok scope') ∈ between → scope' = scope := by
  obtain ⟨first, rest, rfl⟩ := List.append_of_mem hfirst
  obtain ⟨start, second, rfl⟩ := List.append_of_mem hsecond
  have hsplit : history = (before ++ first) ++ .resolved party id (.ok scope) ::
      (rest ++ between ++ start) ++ .resolved party' id' (.ok scope) :: (second ++ after) := by
    simpa using hhistory
  have hmiddle := ((h.same_scope_iff hsplit).mp rfl).2
  have hkept : ∀ replayNamespace ∈ namespaceFor id, .bumped replayNamespace ∉ between :=
    fun replayNamespace hnamespace hmem ↦ hmiddle replayNamespace hnamespace
      (List.mem_append_left _ (List.mem_append_right _ hmem))
  refine ⟨hkept, fun party'' scope' hmem ↦ ?_⟩
  have hscope : scope = resolveScope (countersAfter (before ++ first)) id :=
    h.resolves _ party id scope (rest ++ between ++ start ++ .resolved party' id' (.ok scope) ::
      (second ++ after)) (by rw [hsplit]; simp)
  have hstretch : history = (before ++ first) ++ (.resolved party id (.ok scope) :: (rest ++ between)) ++
      (start ++ .resolved party' id' (.ok scope) :: (second ++ after)) := by
    rw [hsplit]
    simp
  rw [hscope]
  refine h.steady hstretch (fun replayNamespace hnamespace hbumped ↦ ?_)
    (List.mem_cons_of_mem _ (List.mem_append_right _ hmem))
  rcases List.mem_cons.mp hbumped with hbumped | hbumped
  · cases hbumped
  · exact hmiddle replayNamespace hnamespace (List.mem_append_left _ hbumped)

/-- **An identity pins the epochs.**  When an identity is resolved, and later one with the same digest,
then no epoch of the panel was counted on in between: every scope that was resolved in between for a
task of the panel, by a rollout or for another fingerprint, is the one that both identities name.
When nothing is counted on all the while, the digest stays. -/
theorem Fenced.identity_pins_epochs
    (hhistory : history = before ++ first ++ between ++ second ++ after)
    (htasks : ∀ task ∈ config.environment.taskNames, '\n' ∉ task.toList)
    (htasks' : ∀ task ∈ config'.environment.taskNames, '\n' ∉ task.toList)
    (hfirst : Fingerprinted hexdigest payloads epoch config first)
    (hsecond : Fingerprinted hexdigest payloads' epoch' config' second) :
    ((resolveMeasurementIdentity hexdigest override config (.replay payloads epoch)).digest
          hexdigest.digest =
        (resolveMeasurementIdentity hexdigest override' config' (.replay payloads' epoch')).digest
          hexdigest.digest →
      ∀ task ∈ config.environment.taskNames,
        (∀ replayNamespace ∈ namespaceFor (contentId hexdigest payloads config.environment.kind task),
          .bumped replayNamespace ∉ between) ∧
        ∀ party scope, .resolved party (contentId hexdigest payloads config.environment.kind task)
            (.ok scope) ∈ between →
          scope = (Execution.replay payloads epoch).scope hexdigest config.environment.kind task ∧
          scope = (Execution.replay payloads' epoch').scope hexdigest config'.environment.kind task) ∧
    (config.SameMeasured config' →
      config.llmProviderConfig.providerRevision override =
        config'.llmProviderConfig.providerRevision override' →
      payloads = payloads' →
      (∀ replayNamespace, .bumped replayNamespace ∉ first ++ between ++ second) →
      (resolveMeasurementIdentity hexdigest override config (.replay payloads epoch)).digest
          hexdigest.digest =
        (resolveMeasurementIdentity hexdigest override' config' (.replay payloads' epoch')).digest
          hexdigest.digest) := by
  constructor
  · intro hdigest task htask
    obtain ⟨hsame, -, hscopes⟩ := (digest_inj htasks htasks').mp hdigest
    have hscope := hscopes task htask
    have hlast := hsecond task (hsame.taskNames.subset htask)
    rw [← hscope] at hlast ⊢
    obtain ⟨hkept, honly⟩ := h.pinned hhistory (hfirst task htask) hlast
    exact ⟨hkept, fun party scope hmem ↦ ⟨honly party scope hmem, honly party scope hmem⟩⟩
  · rintro hsame hrevision rfl hkept
    refine (digest_inj htasks htasks').mpr ⟨hsame, hrevision, fun task htask ↦ ?_⟩
    have hsplit : history = before ++ (first ++ between ++ second) ++ after := by
      simpa using hhistory
    have hscope := h.steady hsplit (fun replayNamespace _ ↦ hkept replayNamespace)
      (List.mem_append_left _ (List.mem_append_left _ (hfirst task htask)))
    have hscope' := h.steady hsplit (fun replayNamespace _ ↦ hkept replayNamespace)
      (List.mem_append_right _ (hsecond task (hsame.taskNames.subset htask)))
    rw [hscope, hscope', hsame.kind]

end Identities

/-! ## Histories that grow -/

section Grown

variable {ι A : Type} {rollouts : ι → ReplayedRollout A} {history : List (Deed ι A)}

theorem Sequenced.nil : Sequenced rollouts [] := ⟨by simp, by simp⟩

variable (h : Sequenced rollouts history)

include h

/-- One more deed. -/
theorem Sequenced.snoc {deed : Deed ι A}
    (hresolves : ∀ party id scope, deed = .resolved party id (.ok scope) →
      scope = resolveScope (countersAfter history) id)
    (hbegins : ∀ i event, deed = .cache (.exchange i event) →
      ∃ id, .resolved (some i) id (.ok (some (rollouts i).scope)) ∈ history) :
    Sequenced rollouts (history ++ [deed]) := by
  constructor
  · intro before party id scope after hsplit
    rcases Transitions.split_snoc hsplit with ⟨rfl, hdeed⟩ | ⟨rest, hhistory⟩
    · exact hresolves party id scope hdeed
    · exact h.resolves before party id scope rest hhistory
  · intro before i event after hsplit
    rcases Transitions.split_snoc hsplit with ⟨rfl, hdeed⟩ | ⟨rest, hhistory⟩
    · exact hbegins i event hdeed
    · exact h.begins before i event rest hhistory

/-- A scope is resolved. -/
theorem Sequenced.resolve (party : Option ι) (id : Option String) : Sequenced rollouts
    (history ++ [.resolved party id (.ok (resolveScope (countersAfter history) id))]) := by
  refine h.snoc ?_ (by rintro i event ⟨⟩)
  rintro party' id' scope ⟨⟩
  rfl

/-- An epoch is counted on. -/
theorem Sequenced.bump (replayNamespace : String) :
    Sequenced rollouts (history ++ [.bumped replayNamespace]) :=
  h.snoc (by rintro party id scope ⟨⟩) (by rintro i event ⟨⟩)

/-- A rollout whose scope has been resolved goes on. -/
theorem Sequenced.go {i : ι} (id : Option String) (events : List (Event A))
    (hbegun : .resolved (some i) id (.ok (some (rollouts i).scope)) ∈ history) :
    Sequenced rollouts (history ++ (speech i events).map .cache) := by
  induction events generalizing history with
  | nil => rwa [speech, List.map_nil, List.map_nil, List.append_nil]
  | cons event events ih =>
    rw [speech, List.map_cons, List.map_cons, ← List.singleton_append, ← List.append_assoc]
    refine ih (h.snoc (by rintro party id scope ⟨⟩) ?_) (List.mem_append_left _ hbegun)
    rintro i' event' ⟨⟩
    exact ⟨id, hbegun⟩

end Grown

/-! ## A verdict that was retired -/

namespace Retired

open Served

def replayNamespace : String := CACHE_SCHEMA ++ ":" ++ "task"

/-- A rollout submits and records its verdict; another one submits after the epoch was counted on. -/
def submitters (later : Bool) : ReplayedRollout Unit :=
  { submitter none with scope := ⟨replayNamespace, if later then 1 else 0⟩ }

def key (later : Bool) : String := stepKey .spelled (submitters later).scope [.verify]

/-- Both find nothing, execute the submit and record it. -/
def events (later : Bool) : List (Event Unit) :=
  request ++ ([.get (blockedKey (key later)) (.ok none), .get (key later) (.ok none)] ++
    ([.verify (.ok passingOutcome), .put (key later) submitRow (.ok ())] ++ ending))

theorem trace_submitters (later : Bool) : (submitters later).trace .ascii .spelled = events later := by
  cases later <;> rfl

theorem stored_events (later : Bool) (key' : String) :
    stored storeAccess (speech later (events later)) key' =
      if key' = key later then some submitRow else none := by
  have hlookup : stored storeAccess (speech later (events later)) key' =
      match key' == key later with
      | true => some submitRow
      | false => none := rfl
  rw [hlookup]
  split <;> simp_all

theorem consistent_events {history : List (Occurrence Bool (Event Unit))} {later : Bool}
    (h : Consistent storeAccess history)
    (hmarker : stored storeAccess history (blockedKey (key later)) = none)
    (hrow : stored storeAccess history (key later) = none) :
    Consistent storeAccess (history ++ speech later (events later)) := by
  have hblind : ∀ events ∈ [request, [.verify (.ok passingOutcome), .put (key later) submitRow (.ok ())],
      ending], ∀ event ∈ events, storeAccess.get? event = none := by
    simp [request, ending, storeAccess]
  have hrequest : ∀ key, stored storeAccess (speech later request) key = none := fun _ ↦ rfl
  rw [events, speech_append, speech_append, speech_append, ← List.append_assoc, ← List.append_assoc,
    ← List.append_assoc]
  refine .speech (.speech ?_ (hblind _ (by simp))) (hblind ending (by simp))
  rw [speech, speech, List.map_cons, List.map_singleton, ← List.singleton_append, ← List.append_assoc]
  refine (Consistent.snoc (h.speech (hblind request (by simp))) ?_).snoc ?_
  · rintro _ _ ⟨⟩
    rw [stored_append_eq, hmarker]
    rfl
  · rintro _ _ ⟨⟩
    rw [stored_append_eq, stored_append_eq, hrow]
    rfl

/-- Until the epoch is counted on. -/
def first : List (Deed Bool Unit) :=
  [.resolved (some false) (some "task") (.ok (some (submitters false).scope))] ++
    (speech false (events false)).map .cache

def history : List (Deed Bool Unit) :=
  first ++ [.bumped replayNamespace] ++
    [.resolved (some true) (some "task") (.ok (some (submitters true).scope))] ++
    (speech true (events true)).map .cache

theorem cached_first : cached first = speech false (events false) := cached_map_cache _

theorem cached_history : cached history = speech false (events false) ++ speech true (events true) := by
  rw [history, cached_append, cached_append, cached_append, cached_first, cached_map_cache]
  rfl

theorem fenced_history : Fenced .ascii .spelled submitters history where
  toSequenced := by
    refine ((((Sequenced.nil.resolve (some false) (some "task")).go (some "task") (events false)
      ?_).bump replayNamespace).resolve (some true) (some "task")).go (some "task") (events true) ?_
    · exact List.mem_singleton.mpr rfl
    · exact List.mem_append_right _ (List.mem_singleton.mpr rfl)
  shared := by
    rw [cached_history]
    constructor
    · intro later
      rw [trace_submitters, projection_append, projection_speech, projection_speech]
      cases later
      · exact List.append_nil _ ▸ List.prefix_rfl
      · exact List.prefix_rfl
    · have hkeys : key true ≠ key false := by
        intro hkey
        have hscope := (stepKey_inj.mp hkey).1
        cases congrArg ReplayScope.epoch hscope
      refine consistent_events (List.nil_append (speech false (events false)) ▸
        consistent_events .nil rfl rfl) ?_ ?_
      · exact (stored_events false _).trans (if_neg (blockedKey_ne_stepKey _))
      · rw [stored_events, if_neg hkeys]

/-- The verdict is stored, and the later rollout does not find it. -/
theorem epoch_fence_retired :
    stored storeAccess (cached first) (stepKey .spelled (submitters false).scope [.verify]) =
        some submitRow ∧
      stored storeAccess (cached first) (stepKey .spelled (submitters true).scope [.verify]) = none := by
  refine ⟨?_, ?_⟩
  · rw [cached_first]
    exact (stored_events false _).trans (if_pos rfl)
  · have hhistory : history = first ++ .bumped (submitters true).scope.replayNamespace :: [] ++
        .resolved (some true) (some "task") (.ok (some (submitters true).scope)) ::
          (speech true (events true)).map .cache := by
      rw [history, List.append_assoc, List.singleton_append]
      rfl
    exact ((Fenced.epoch_fence fenced_history hhistory).1 [.verify]).1

/-- The lines of a fingerprint of the panel of two tasks. -/
def lines : List (Deed Bool Unit) :=
  twoTasks.environment.taskNames.map fun task ↦
    .resolved none (contentId .spelled ⟨"swe", "terminal_bench"⟩ .swe task)
      (.ok (firstEpochs.scope .spelled .swe task))

/-- A rollout begins. -/
def beginning : List (Deed Bool Unit) :=
  [.resolved (some true) (contentId .spelled ⟨"swe", "terminal_bench"⟩ .swe "astropy")
    (.ok (firstEpochs.scope .spelled .swe "astropy"))]

theorem sequenced_lines : Sequenced submitters (lines ++ beginning ++ lines) := by
  let id (task : TaskId) : Option String := contentId .spelled ⟨"swe", "terminal_bench"⟩ .swe task
  exact ((((Sequenced.nil.resolve none (id "astropy")).resolve none (id "django")).resolve (some true)
    (id "astropy")).resolve none (id "astropy")).resolve none (id "django")

/-- A rollout that begins between two fingerprints has the scope that both of them name. -/
theorem identity_pins_epochs_lines :
    (∀ replayNamespace ∈ namespaceFor (contentId .spelled ⟨"swe", "terminal_bench"⟩ .swe "astropy"),
      .bumped replayNamespace ∉ beginning) ∧
    ∀ party scope, .resolved party (contentId .spelled ⟨"swe", "terminal_bench"⟩ .swe "astropy")
        (.ok scope) ∈ beginning →
      scope = firstEpochs.scope .spelled .swe "astropy" ∧
      scope = firstEpochs.scope .spelled .swe "astropy" := by
  have hfenced : Fenced .ascii .spelled submitters (lines ++ beginning ++ lines) :=
    ⟨sequenced_lines, fun _ ↦ List.nil_prefix, .nil⟩
  have hlines : Fingerprinted .spelled ⟨"swe", "terminal_bench"⟩ (fun _ ↦ 0) twoTasks lines :=
    fun _ htask ↦ List.mem_map_of_mem htask
  have hhistory : lines ++ beginning ++ lines = [] ++ lines ++ beginning ++ lines ++ [] :=
    (List.append_nil _).symm
  have hdigest : (resolveMeasurementIdentity .spelled none twoTasks firstEpochs).digest
        Hexdigest.spelled.digest = (resolveMeasurementIdentity .spelled none twoTasks
          firstEpochs).digest Hexdigest.spelled.digest := rfl
  exact (Fenced.identity_pins_epochs hfenced hhistory (by decide) (by decide) hlines hlines).1 hdigest
    "astropy" (by decide)

end Retired

end HarnessTraining
