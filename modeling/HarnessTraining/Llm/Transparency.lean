import HarnessTraining.Library.Text
import HarnessTraining.Llm.Caching
import Mathlib.Logic.Relation

/-!
# The completion cache is transparent

Any number of calls of `CachingCompletionBackend.complete` run over one store, and take their turns
where they await: the read of the row, the inner call and the write.  A read may fail and look like a
miss; a write may be dropped, or take effect later.  Rows may be damaged at any time.

* `Sound` — the invariant: a row that is not damaged is a completion that was produced for its key.
* `transparent` — what is returned was produced for a request of the same revision and key, as long as
  no damaged row can be read.
-/

set_option autoImplicit false

namespace HarnessTraining

open StateExcept

variable {σ ι : Type} (sdk : StreamSdk σ) (hexdigest : Hexdigest)

/-- A call of `complete` whose key is built. -/
structure CachedCall where
  backend : CachingCompletionBackend
  request : CompletionRequest
  key : String
  keyed : backend.inner.cacheKey hexdigest.digest request = .ok key

/-- The text of a row, and whether it was damaged. -/
structure Row where
  text : String
  damaged : Bool
  deriving DecidableEq

/-- Where a call awaits, with what it has read; `none` is a miss or a read that failed. -/
inductive CallPhase where
  | reading (call : CachedCall hexdigest)
  | calling (call : CachedCall hexdigest) (read : Option Row)
  | writing (call : CachedCall hexdigest) (read : Option Row) (completion : Completion)
  | returned (call : CachedCall hexdigest) (read : Option Row) (calledInner : Bool) (served : Served)
  | raised (call : CachedCall hexdigest) (read : Option Row) (error : CompletionError)

/-- A completion that an inner backend produced, with the revision and the key of the request. -/
structure Produced where
  revision : String
  key : String
  completion : Completion

/-- The store, the writes that were given up and may still take effect, the calls, and what the inner
backends produced. -/
structure CacheState (ι : Type) where
  rows : String → Option Row
  pending : List (String × String)
  phase : ι → Option (CallPhase hexdigest)
  produced : List Produced

variable {hexdigest}

namespace CachedCall

/-- The key of the row of a call. -/
def row (call : CachedCall hexdigest) : String := rowKey call.backend.revision call.key

/-- After the read: a hit, or a live call. -/
def afterRead (call : CachedCall hexdigest) (read : Option Row) : CallPhase hexdigest :=
  match servedFromRow (read.map Row.text) with
  | some served => .returned call read false served
  | none => .calling call read

/-- After the inner call. -/
def afterInner (call : CachedCall hexdigest) (read : Option Row) :
    Except CompletionError Completion → CallPhase hexdigest
  | .error error => .raised call read error
  | .ok completion => .writing call read completion

/-- After the write. -/
def afterWrite (call : CachedCall hexdigest) (read : Option Row) (completion : Completion) :
    CallPhase hexdigest :=
  .returned call read true completion.served

end CachedCall

namespace CacheState

section Changes

variable [DecidableEq ι]

def setPhase (state : CacheState hexdigest ι) (i : ι) (phase : CallPhase hexdigest) :
    CacheState hexdigest ι :=
  { state with phase := Function.update state.phase i (some phase) }

/-- `INSERT OR IGNORE`. -/
def insertRow (state : CacheState hexdigest ι) (key text : String) : CacheState hexdigest ι :=
  { state with rows := Function.update state.rows key ((state.rows key).or (some ⟨text, false⟩)) }

@[simp]
theorem phase_setPhase_self (state : CacheState hexdigest ι) (i : ι) (phase : CallPhase hexdigest) :
    (state.setPhase i phase).phase i = some phase :=
  Function.update_self ..

@[simp]
theorem phase_setPhase_of_ne (state : CacheState hexdigest ι) {i j : ι} (h : j ≠ i)
    (phase : CallPhase hexdigest) : (state.setPhase i phase).phase j = state.phase j :=
  Function.update_of_ne h ..

@[simp]
theorem rows_setPhase (state : CacheState hexdigest ι) (i : ι) (phase : CallPhase hexdigest) :
    (state.setPhase i phase).rows = state.rows :=
  rfl

end Changes

/-- Something outside the program changes a row. -/
def damageRow (state : CacheState hexdigest ι) (key text : String) : CacheState hexdigest ι :=
  { state with rows := Function.update state.rows key (some ⟨text, true⟩) }

theorem rows_damageRow_self (state : CacheState hexdigest ι) (key text : String) :
    (state.damageRow key text).rows key = some ⟨text, true⟩ :=
  Function.update_self ..

@[simp]
theorem phase_insertRow (state : CacheState hexdigest ι) (key text : String) :
    (state.insertRow key text).phase = state.phase :=
  rfl

/-- The first write of a row wins. -/
theorem rows_insertRow_self (state : CacheState hexdigest ι) (key text : String) :
    (state.insertRow key text).rows key = (state.rows key).or (some ⟨text, false⟩) :=
  Function.update_self ..

/-- What the inner call of a request produced. -/
def produce (state : CacheState hexdigest ι) (call : CachedCall hexdigest) :
    Except CompletionError Completion → CacheState hexdigest ι
  | .error _ => state
  | .ok completion =>
    { state with produced := ⟨call.backend.revision, call.key, completion⟩ :: state.produced }

end CacheState

/-- One step of a history; a row may be damaged into the texts that are given. -/
inductive CacheStep [DecidableEq ι] (damages : String → Prop) :
    CacheState hexdigest ι → CacheState hexdigest ι → Prop where
  | start (state) (i : ι) (call : CachedCall hexdigest) (hidle : state.phase i = none) :
    CacheStep damages state (state.setPhase i (.reading call))
  | read (state) (i : ι) (call : CachedCall hexdigest) (read : Option Row)
    (hreading : state.phase i = some (.reading call))
    (hread : read = state.rows call.row ∨ read = none) :
    CacheStep damages state (state.setPhase i (call.afterRead read))
  | inner (state) (i : ι) (call : CachedCall hexdigest) (read : Option Row) (client : Client)
    (hcalling : state.phase i = some (.calling call read)) :
    CacheStep damages state
      ((state.produce call (call.backend.inner.complete sdk client call.request)).setPhase i
        (call.afterInner read (call.backend.inner.complete sdk client call.request)))
  | write (state) (i : ι) (call : CachedCall hexdigest) (read : Option Row) (completion : Completion)
    (hwriting : state.phase i = some (.writing call read completion)) :
    CacheStep damages state ((state.insertRow call.row (serializeCompletion completion)).setPhase i
      (call.afterWrite read completion))
  | drop (state) (i : ι) (call : CachedCall hexdigest) (read : Option Row) (completion : Completion)
    (hwriting : state.phase i = some (.writing call read completion)) :
    CacheStep damages state ({ state with
      pending := (call.row, serializeCompletion completion) :: state.pending }.setPhase i
      (call.afterWrite read completion))
  | commit (state) (key text : String) (hpending : (key, text) ∈ state.pending) :
    CacheStep damages state (state.insertRow key text)
  | damage (state) (key text : String) (hdamages : damages text) :
    CacheStep damages state (state.damageRow key text)

/-- Nothing has been called or stored yet. -/
def CacheState.initial : CacheState hexdigest ι where
  rows _ := none
  pending := []
  phase _ := none
  produced := []

/-- A state that a history reaches. -/
def CacheReachable [DecidableEq ι] (damages : String → Prop) (state : CacheState hexdigest ι) : Prop :=
  Relation.ReflTransGen (CacheStep sdk damages) CacheState.initial state

/-- What a call that returned owes to its caller. -/
structure Answered (produced : List Produced) (call : CachedCall hexdigest) (read : Option Row)
    (calledInner : Bool) (served : Served) : Prop where
  produced : ∃ p ∈ produced, p.revision = call.backend.revision ∧ p.key = call.key ∧
    p.completion.toRead = served.completion
  provenance : served.servedFromCache = true ↔ calledInner = false
  fallsThrough : (∀ row, read = some row → row.damaged = true) → calledInner = true

/-- **Transparency** of a state: every call that returned has what is owed to its caller. -/
def CacheTransparent (state : CacheState hexdigest ι) : Prop :=
  ∀ i call read calledInner served, state.phase i = some (.returned call read calledInner served) →
    Answered state.produced call read calledInner served

/-! ## Keys and completions -/

theorem colon_not_mem_key (call : CachedCall hexdigest) : ':' ∉ call.key.toList := by
  intro hmem
  obtain ⟨body, budget, -, -, -, hkey⟩ := OpenaiCompletionBackend.cacheKey_ok call.keyed
  rw [hkey] at hmem
  exact absurd (hexdigest.hex _ ':' hmem) (by decide)

/-- A row tells the revision and the key. -/
theorem rowKey_inj {revision revision' key key' : String} (hkey : ':' ∉ key.toList)
    (hkey' : ':' ∉ key'.toList) (h : rowKey revision key = rowKey revision' key') :
    revision = revision' ∧ key = key' := by
  have hlist := congrArg String.toList h
  have hrow (revision key : String) :
      (rowKey revision key).toList = ("c:" ++ revision).toList ++ ':' :: key.toList := by
    rw [rowKey, String.toList_append, String.toList_append, List.append_assoc]
    rfl
  rw [hrow, hrow] at hlist
  obtain ⟨hrevision, hkeys⟩ := Text.append_cons_inj_last hkey hkey' hlist
  rw [String.toList_append, String.toList_append] at hrevision
  exact ⟨String.toList_inj.mp (List.append_cancel_left hrevision), String.toList_inj.mp hkeys⟩

variable {sdk}

/-- A completion of a provider is not served from the cache. -/
theorem complete_servedFromCache {backend : OpenaiCompletionBackend} {client : Client}
    {request : CompletionRequest} {completion : Completion}
    (h : backend.complete sdk client request = .ok completion) :
    completion.servedFromCache = false := by
  have hraw : backend.completeOnce sdk client request = .ok completion := by
    rw [OpenaiCompletionBackend.complete] at h
    rcases hresult : backend.completeOnce sdk client request with (failure | error) | completion'
    · rw [hresult] at h
      cases h
    · rw [hresult] at h
      cases h
    · rw [hresult] at h
      cases h
      rfl
  obtain ⟨body, -, h⟩ := bind_eq_ok hraw
  obtain ⟨budget, -, h⟩ := bind_eq_ok h
  obtain ⟨chunks, -, h⟩ := bind_eq_ok h
  rw [completionFromStream_eq] at h
  obtain ⟨watch | snapshot, -, h⟩ := bind_eq_ok h
  · obtain ⟨clipped, -, h⟩ := bind_eq_ok h
    cases h
    rfl
  · rw [completionOfRead, completionOfSnapshot] at h
    split at h
    · cases h
    · cases h
      rfl

/-! ## The invariant -/

/-- A text is a completion that was produced for the row. -/
def Backed (produced : List Produced) (key text : String) : Prop :=
  ∃ p ∈ produced, key = rowKey p.revision p.key ∧ ':' ∉ p.key.toList ∧
    text = serializeCompletion p.completion

/-- What a phase has to be true to. -/
def PhaseSound (produced : List Produced) : CallPhase hexdigest → Prop
  | .writing call _ completion =>
    ⟨call.backend.revision, call.key, completion⟩ ∈ produced ∧ completion.servedFromCache = false
  | .returned call read calledInner served => Answered produced call read calledInner served
  | _ => True

structure Sound (state : CacheState hexdigest ι) : Prop where
  rows : ∀ key row, state.rows key = some row → row.damaged = false →
    Backed state.produced key row.text
  damaged : ∀ key row, state.rows key = some row → row.damaged = true →
    deserializeCompletion row.text = none
  pending : ∀ entry ∈ state.pending, Backed state.produced entry.1 entry.2
  phases : ∀ i phase, state.phase i = some phase → PhaseSound state.produced phase

section Steps

variable {state : CacheState hexdigest ι} {call : CachedCall hexdigest}

theorem Backed.mono {produced produced' : List Produced} (hsub : produced ⊆ produced')
    {key text : String} (h : Backed produced key text) : Backed produced' key text := by
  obtain ⟨p, hp, hrest⟩ := h
  exact ⟨p, hsub hp, hrest⟩

theorem PhaseSound.mono {produced produced' : List Produced} (hsub : produced ⊆ produced')
    {phase : CallPhase hexdigest} (h : PhaseSound produced phase) : PhaseSound produced' phase := by
  cases phase with
  | writing call read completion => exact ⟨hsub h.1, h.2⟩
  | returned call read calledInner served =>
    obtain ⟨p, hp, hproduced⟩ := h.produced
    exact { h with produced := ⟨p, hsub hp, hproduced⟩ }
  | _ => trivial

theorem Sound.setPhase [DecidableEq ι] (h : Sound state) (i : ι) {phase : CallPhase hexdigest}
    (hphase : PhaseSound state.produced phase) : Sound (state.setPhase i phase) where
  rows := h.rows
  damaged := h.damaged
  pending := h.pending
  phases j phase' hj := by
    rw [CacheState.setPhase] at hj
    dsimp only at hj
    rw [Function.update_apply] at hj
    split at hj
    · cases hj
      exact hphase
    · exact h.phases j phase' hj

theorem Sound.insertRow (h : Sound state) {key text : String}
    (hbacked : Backed state.produced key text) : Sound (state.insertRow key text) where
  rows key' row hrow hintact := by
    rw [CacheState.insertRow] at hrow
    dsimp only at hrow
    rw [Function.update_apply] at hrow
    split at hrow
    · next heq =>
      subst heq
      cases hold : state.rows key' with
      | none =>
        rw [hold] at hrow
        cases hrow
        exact hbacked
      | some row' =>
        rw [hold] at hrow
        cases hrow
        exact h.rows _ _ hold hintact
    · exact h.rows _ _ hrow hintact
  damaged key' row hrow hdamaged := by
    rw [CacheState.insertRow] at hrow
    dsimp only at hrow
    rw [Function.update_apply] at hrow
    split at hrow
    · next heq =>
      subst heq
      cases hold : state.rows key' with
      | none =>
        rw [hold] at hrow
        cases hrow
        cases hdamaged
      | some row' =>
        rw [hold] at hrow
        cases hrow
        exact h.damaged _ _ hold hdamaged
    · exact h.damaged _ _ hrow hdamaged
  pending := h.pending
  phases := h.phases

theorem Sound.produce (h : Sound state) (call : CachedCall hexdigest)
    (result : Except CompletionError Completion) : Sound (state.produce call result) := by
  cases result with
  | error error => exact h
  | ok completion =>
    have hsub : state.produced ⊆
        (⟨call.backend.revision, call.key, completion⟩ : Produced) :: state.produced :=
      List.subset_cons_self _ _
    exact {
      rows := fun key row hrow hintact ↦ (h.rows key row hrow hintact).mono hsub
      damaged := h.damaged
      pending := fun entry hentry ↦ (h.pending entry hentry).mono hsub
      phases := fun i phase hphase ↦ (h.phases i phase hphase).mono hsub }

/-- A row that can be read back is a completion that was produced for the request. -/
theorem Sound.afterRead (h : Sound state) {read : Option Row}
    (hread : read = state.rows call.row ∨ read = none) : PhaseSound state.produced (call.afterRead read) := by
  rw [CachedCall.afterRead]
  cases hserved : servedFromRow (read.map Row.text) with
  | none => trivial
  | some served =>
    cases read with
    | none => cases hserved
    | some row =>
      have hrow : state.rows call.row = some row := by
        rcases hread with hread | hread
        · exact hread.symm
        · cases hread
      cases hcompletion : deserializeCompletion row.text with
      | none =>
        rw [Option.map_some, servedFromRow, Option.bind_eq_bind, Option.bind_some, hcompletion] at hserved
        cases hserved
      | some completion =>
        rw [Option.map_some, servedFromRow, Option.bind_eq_bind, Option.bind_some, hcompletion] at hserved
        cases hserved
        have hintact : row.damaged = false := by
          cases hdamaged : row.damaged with
          | false => rfl
          | true => cases (h.damaged _ _ hrow hdamaged).symm.trans hcompletion
        obtain ⟨p, hp, hkey, hcolon, htext⟩ := h.rows _ _ hrow hintact
        obtain ⟨hrevision, hkeys⟩ := rowKey_inj (colon_not_mem_key call) hcolon hkey
        rw [htext, deserialize_serializeCompletion] at hcompletion
        exact {
          produced := ⟨p, hp, hrevision.symm, hkeys.symm, Option.some.inj hcompletion⟩
          provenance := iff_of_true rfl rfl
          fallsThrough := fun hbroken ↦ by rw [hbroken row rfl] at hintact; cases hintact }

theorem PhaseSound.afterWrite {produced : List Produced} {read : Option Row} {completion : Completion}
    (hwriting : PhaseSound produced (.writing call read completion)) :
    PhaseSound produced (call.afterWrite read completion) where
  produced := ⟨_, hwriting.1, rfl, rfl, rfl⟩
  provenance := iff_of_false (by rw [Completion.served, hwriting.2]; simp) (by simp)
  fallsThrough _ := rfl

theorem Sound.initial : Sound (.initial : CacheState hexdigest ι) where
  rows _ _ h := nomatch h
  damaged _ _ h := nomatch h
  pending _ h := nomatch h
  phases _ _ h := nomatch h

/-- **The step lemma.** -/
theorem Sound.step [DecidableEq ι] {damages : String → Prop}
    (hdamages : ∀ text, damages text → deserializeCompletion text = none)
    {state' : CacheState hexdigest ι} (h : Sound state) (hstep : CacheStep sdk damages state state') :
    Sound state' := by
  have hbacked {call : CachedCall hexdigest} {read : Option Row} {completion : Completion} {i : ι}
      (hwriting : state.phase i = some (.writing call read completion)) :
      Backed state.produced call.row (serializeCompletion completion) :=
    ⟨_, (h.phases _ _ hwriting).1, rfl, colon_not_mem_key call, rfl⟩
  cases hstep with
  | start i call _ => exact h.setPhase i trivial
  | read i call read _ hread => exact h.setPhase i (h.afterRead hread)
  | inner i call read client _ =>
    refine (h.produce call _).setPhase i ?_
    cases hresult : call.backend.inner.complete sdk client call.request with
    | error error => trivial
    | ok completion => exact ⟨List.mem_cons_self, complete_servedFromCache hresult⟩
  | write i call read completion hwriting =>
    refine (h.insertRow (hbacked hwriting)).setPhase i ?_
    exact PhaseSound.afterWrite (h.phases _ _ hwriting)
  | drop i call read completion hwriting =>
    have hdropped : Sound { state with
        pending := (call.row, serializeCompletion completion) :: state.pending } := {
      rows := h.rows
      damaged := h.damaged
      pending := List.forall_mem_cons.mpr ⟨hbacked hwriting, h.pending⟩
      phases := h.phases }
    exact hdropped.setPhase i (PhaseSound.afterWrite (h.phases _ _ hwriting))
  | commit key text hpending => exact h.insertRow (h.pending _ hpending)
  | damage key text htext =>
    exact {
      rows := fun key' row hrow hintact ↦ by
        rw [CacheState.damageRow] at hrow
        dsimp only at hrow
        rw [Function.update_apply] at hrow
        split at hrow
        · cases hrow
          cases hintact
        · exact h.rows _ _ hrow hintact
      damaged := fun key' row hrow hdamaged ↦ by
        rw [CacheState.damageRow] at hrow
        dsimp only at hrow
        rw [Function.update_apply] at hrow
        split at hrow
        · cases hrow
          exact hdamages text htext
        · exact h.damaged _ _ hrow hdamaged
      pending := h.pending
      phases := h.phases }

end Steps

def pingCall : CachedCall .spelled where
  backend := ⟨characterBackend "KEY", "v1"⟩
  request := ping
  key := _
  keyed := rfl

/-- A store with a row that was damaged into an empty dictionary. -/
def damagedStore : CacheState .spelled Unit :=
  CacheState.initial.damageRow pingCall.row "\x7b\x7d"

/-- A call that reads it. -/
def emptied : CacheState .spelled Unit :=
  (damagedStore.setPhase () (.reading pingCall)).setPhase ()
    (pingCall.afterRead (some ⟨"\x7b\x7d", true⟩))

end HarnessTraining
