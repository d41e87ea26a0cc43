import HarnessTraining.Env.Netcache.Frozen
import HarnessTraining.Library.Transitions

/-!
# First write wins

An identity has one response, for good: that of the first store that returned true for it.  A hit is
served in the bytes of Latin-1, though its headers were read as UTF-8, so a flow sees the same headers
only where they are ASCII; for some others `request` raises, and the flow goes upstream again.

* `makeResponse_eq_iff` — the hits that are served as they were stored.
* `first_write_wins` — in every order of loads, stores and flows.
-/

set_option autoImplicit false

namespace HarnessTraining.Netcache

open Transitions

/-! ## The bytes of a hit -/

def isAscii (text : String) : Bool := text.toList.all (·.toNat < 128)

def AsciiHeaders (headers : Headers) : Prop :=
  ∀ header ∈ headers, isAscii header.1 = true ∧ isAscii header.2 = true

instance (headers : Headers) : Decidable (AsciiHeaders headers) :=
  inferInstanceAs (Decidable (∀ header ∈ headers, _))

/-- The response that was stored, with the header bytes it was read from. -/
def CachedResponse.served (cached : CachedResponse) : ServedResponse where
  statusCode := cached.statusCode
  headers := cached.headers.map fun header ↦ (encodeUtf8 header.1, encodeUtf8 header.2)
  body := cached.body

theorem mapM_eq_map {α β : Type} {f : α → Option β} {g : α → β} : ∀ {xs : List α},
    xs.mapM f = some (xs.map g) ↔ ∀ x ∈ xs, f x = some (g x)
  | [] => by simp
  | x :: xs => by
    rw [List.mapM_cons, List.map_cons, List.forall_mem_cons, ← mapM_eq_map]
    cases f x with
    | none => simp
    | some y =>
      cases xs.mapM f with
      | none => simp
      | some ys => simp

theorem length_mapM {α β : Type} {f : α → Option β} : ∀ {xs : List α} {ys : List β},
    xs.mapM f = some ys → ys.length = xs.length
  | [], ys, h => by
    cases h
    rfl
  | x :: xs, ys, h => by
    rw [List.mapM_cons] at h
    obtain ⟨y, -, h⟩ := Option.bind_eq_some_iff.mp h
    obtain ⟨rest, hrest, h⟩ := Option.bind_eq_some_iff.mp h
    cases h
    rw [List.length_cons, List.length_cons, length_mapM hrest]

theorem utf8Size_eq_one {c : Char} : c.utf8Size = 1 ↔ c.toNat < 128 := by
  rw [Char.utf8Size_eq_one_iff, UInt32.le_iff_toNat_le]
  exact Nat.lt_succ_iff.symm

theorem length_le_flatMap : ∀ text : List Char,
    text.length ≤ (text.flatMap String.utf8EncodeChar).length
  | [] => Nat.le_refl _
  | c :: text => by
    rw [List.flatMap_cons, List.length_append, List.length_cons, String.length_utf8EncodeChar]
    have hpos := c.utf8Size_pos
    have hrest := length_le_flatMap text
    omega

/-- A text in UTF-8 has a byte for a character only if it is ASCII. -/
theorem all_of_length : ∀ {text : List Char},
    (text.flatMap String.utf8EncodeChar).length = text.length → text.all (·.toNat < 128) = true
  | [], _ => rfl
  | c :: text, h => by
    rw [List.flatMap_cons, List.length_append, List.length_cons, String.length_utf8EncodeChar] at h
    have hpos := c.utf8Size_pos
    have hrest := length_le_flatMap text
    rw [List.all_cons, Bool.and_eq_true, decide_eq_true_iff]
    exact ⟨utf8Size_eq_one.mp (by omega), all_of_length (by omega)⟩

/-- Latin-1 and UTF-8 have the same bytes for ASCII, and for nothing else. -/
theorem encodeLatin1_eq_iff {text : String} :
    encodeLatin1 text = some (encodeUtf8 text) ↔ isAscii text = true := by
  rw [encodeLatin1, encodeUtf8, isAscii]
  refine ⟨fun h ↦ all_of_length (length_mapM h), fun h ↦ ?_⟩
  have hascii := List.all_eq_true.mp h
  have hsize {c : Char} (hc : c ∈ text.toList) : c.toNat < 128 := of_decide_eq_true (hascii c hc)
  have hutf8 : text.toList.flatMap String.utf8EncodeChar =
      text.toList.map fun c ↦ c.toNat.toUInt8 := by
    rw [List.map_eq_flatMap]
    refine List.flatMap_congr fun c hc ↦ ?_
    rw [String.utf8EncodeChar_eq_singleton (utf8Size_eq_one.mpr (hsize hc))]
    rfl
  rw [hutf8, mapM_eq_map]
  intro c hc
  rw [if_pos (Nat.lt_trans (hsize hc) (by decide))]

theorem encodeHeader_eq_iff {header : String × String} :
    encodeHeader header = some (encodeUtf8 header.1, encodeUtf8 header.2) ↔
      isAscii header.1 = true ∧ isAscii header.2 = true := by
  rw [encodeHeader, ← encodeLatin1_eq_iff, ← encodeLatin1_eq_iff]
  cases encodeLatin1 header.1 with
  | none => simp
  | some name =>
    cases encodeLatin1 header.2 with
    | none => simp
    | some value => simp

/-- **A hit is served as it was stored just if its headers are ASCII.** -/
theorem makeResponse_eq_iff {cached : CachedResponse} :
    makeResponse cached = some cached.served ↔ AsciiHeaders cached.headers := by
  simp only [AsciiHeaders, ← encodeHeader_eq_iff, ← mapM_eq_map]
  rw [makeResponse, CachedResponse.served]
  cases cached.headers.mapM encodeHeader with
  | none => simp
  | some headers => simp

/-! ## Runs whose headers are ASCII -/

section Events

variable (py : PythonText)

/-- A scope without the separator of the keys. -/
def ScopeOk (cacheScope : String) : Prop := '\x00' ∉ cacheScope.toList

/-- An event of a scope without the separator, or of a response with ASCII headers, of those that are
frozen; and no read of an entry fails. -/
def CacheEvent.Sound : CacheEvent → Prop
  | .load _ call => ScopeOk call.cacheScope
  | .store _ call => ScopeOk call.cacheScope ∧ AsciiHeaders (cacheableHeaders py call.headers)
  | .readFails _ => False
  | .request _ _ _ (some cacheScope) => ScopeOk cacheScope
  | .responded _ upstream => AsciiHeaders (cacheableHeaders py upstream.headers)
  | _ => True

def Flow.Sound : Flow → Prop
  | .looking _ cacheScope _ | .passed _ cacheScope _ _ _ => ScopeOk cacheScope
  | .answered _ cacheScope _ _ response =>
    ScopeOk cacheScope ∧ AsciiHeaders (cacheableHeaders py response.headers)
  | _ => True

/-- What the events of a run leave in its state. -/
structure SoundState (s : Cache) : Prop where
  loads : ∀ id call, (s.calls id).load? = some call → ScopeOk call.cacheScope
  stores : ∀ id call, (s.calls id).store? = some call → ScopeOk call.cacheScope ∧
    AsciiHeaders (cacheableHeaders py call.headers)
  flows : ∀ flow, (s.flows flow).Sound py

end Events

section SoundRuns

variable {py : PythonText} {bodyDigest : BodyDigest} {hexdigest : Hexdigest} {mirrorHost : String}
  {s s' : Cache}

theorem SoundState.setCall (h : SoundState py s) {id : ℕ} {state : CallState}
    (hload : ∀ call, state.load? = some call → ScopeOk call.cacheScope)
    (hstore : ∀ call, state.store? = some call → ScopeOk call.cacheScope ∧
      AsciiHeaders (cacheableHeaders py call.headers)) : SoundState py (s.setCall id state) where
  loads id' call := by
    dsimp only [Cache.setCall]
    by_cases heq : id' = id
    · subst heq
      rw [Function.update_self]
      exact hload call
    · rw [Function.update_of_ne heq]
      exact h.loads id' call
  stores id' call := by
    dsimp only [Cache.setCall]
    by_cases heq : id' = id
    · subst heq
      rw [Function.update_self]
      exact hstore call
    · rw [Function.update_of_ne heq]
      exact h.stores id' call
  flows := h.flows

theorem SoundState.setFlow (h : SoundState py s) {flow : ℕ} {state : Flow} (hstate : state.Sound py) :
    SoundState py (s.setFlow flow state) where
  loads := h.loads
  stores := h.stores
  flows flow' := by
    dsimp only [Cache.setFlow]
    by_cases heq : flow' = flow
    · subst heq
      rwa [Function.update_self]
    · rw [Function.update_of_ne heq]
      exact h.flows flow'

theorem SoundState.setEntries (h : SoundState py s) (entries : String → Option EntryDir) :
    SoundState py { s with entries := entries } :=
  ⟨h.loads, h.stores, h.flows⟩

theorem SoundState.beginLoad (h : SoundState py s) (id : ℕ) {call : LoadCall}
    (hscope : ScopeOk call.cacheScope) :
    SoundState py (s.setCall id (call.begin py bodyDigest hexdigest)) := by
  obtain ⟨hload, hstore⟩ := call.load?_begin py bodyDigest hexdigest
  refine h.setCall (fun call' hcall ↦ ?_) (fun call' hcall ↦ ?_)
  · cases hload.symm.trans hcall
    exact hscope
  · cases hstore.symm.trans hcall

theorem SoundState.beginStore (h : SoundState py s) (id : ℕ) {call : StoreCall}
    (hscope : ScopeOk call.cacheScope) (hheaders : AsciiHeaders (cacheableHeaders py call.headers)) :
    SoundState py (s.setCall id (call.begin py bodyDigest hexdigest)) := by
  obtain ⟨hstore, hload⟩ := call.store?_begin py bodyDigest hexdigest
  refine h.setCall (fun call' hcall ↦ ?_) (fun call' hcall ↦ ?_)
  · cases hload.symm.trans hcall
  · cases hstore.symm.trans hcall
    exact ⟨hscope, hheaders⟩

theorem store?_stepStore (dir : Option EntryDir) (call : StoreCall) (entry : String)
    (point : StorePoint) : (stepStore py dir call entry point).2.store? = some call ∧
      (stepStore py dir call entry point).2.load? = none := by
  unfold stepStore
  split
  · dsimp only
    split <;> exact ⟨rfl, rfl⟩
  · exact ⟨rfl, rfl⟩
  · exact ⟨rfl, rfl⟩
  · exact ⟨rfl, rfl⟩
  · split <;> exact ⟨rfl, rfl⟩

theorem sound_afterLoad {request : FlowRequest} {cacheScope : String} {load : ℕ}
    (answer : Except String (Option CachedResponse)) (hscope : ScopeOk cacheScope) :
    (afterLoad py mirrorHost request cacheScope load answer).Sound py := by
  unfold afterLoad
  split
  · exact hscope
  · split
    · trivial
    · exact hscope
  · split
    · exact hscope
    · exact hscope
    · exact hscope

/-- What `responseheaders` takes away is not frozen either. -/
theorem ascii_headed {response : FlowResponse} {request : FlowRequest} {originalUrl : Option String}
    (h : AsciiHeaders (cacheableHeaders py response.headers)) :
    AsciiHeaders (cacheableHeaders py
      (response.headed py bodyDigest request originalUrl).headers) := by
  have hheaders : (response.headed py bodyDigest request originalUrl).headers =
      response.headers.filter fun header ↦ py.lower header.1 ∉ volatileResponseHeaders := by
    unfold FlowResponse.headed
    dsimp only
    split <;> rfl
  rw [hheaders]
  intro header hheader
  obtain ⟨hheader, hkept⟩ := List.mem_filter.mp hheader
  exact h header (List.mem_filter.mpr ⟨(List.mem_filter.mp hheader).1, hkept⟩)

/-- Every event of the kind keeps what the events left. -/
theorem SoundState.step {event : CacheEvent} (h : SoundState py s) (hevent : event.Sound py)
    (hstep : s.step py bodyDigest hexdigest mirrorHost event = some s') : SoundState py s' := by
  cases event with
  | load id call =>
    simp only [Cache.step] at hstep
    split at hstep
    · cases hstep
      exact h.beginLoad id hevent
    · cases hstep
  | store id call =>
    simp only [Cache.step] at hstep
    split at hstep
    · cases hstep
      exact h.beginStore id hevent.1 hevent.2
    · cases hstep
  | step id =>
    simp only [Cache.step] at hstep
    split at hstep
    · next call entry point hcall =>
      cases hstep
      refine h.setCall (fun call' hload ↦ ?_) (fun call' hstore ↦ ?_)
      · rw [load?_stepLoad] at hload
        exact h.loads id call' (hcall ▸ hload)
      · rw [store?_stepLoad] at hstore
        cases hstore
    · next call entry point hcall =>
      cases hstep
      refine (h.setCall (fun call' hload ↦ ?_) (fun call' hstore ↦ ?_)).setEntries _
      · rw [(store?_stepStore ..).2] at hload
        cases hload
      · rw [(store?_stepStore ..).1] at hstore
        exact h.stores id call' (hcall ▸ hstore)
    · cases hstep
  | writeFails id text =>
    simp only [Cache.step] at hstep
    split at hstep
    · next call entry point hcall =>
      cases hstep
      exact h.setCall (by rintro call' ⟨⟩) fun call' hstore ↦ h.stores id call' (hcall ▸ hstore)
    · cases hstep
  | readFails id => cases hevent
  | request flow id request cacheScope =>
    simp only [Cache.step] at hstep
    split at hstep
    · cases hstep
      refine (h.beginLoad id ?_).setFlow ?_
      · exact hevent
      · exact hevent
    · cases hstep
      exact h.setFlow trivial
    · cases hstep
  | requested flow =>
    simp only [Cache.step] at hstep
    split at hstep
    · next request cacheScope load hflow =>
      have hscope := h.flows flow
      rw [hflow] at hscope
      split at hstep
      · cases hstep
        exact h.setFlow (sound_afterLoad _ hscope)
      · cases hstep
    · cases hstep
  | responded flow response =>
    simp only [Cache.step] at hstep
    split at hstep
    · next request cacheScope load originalUrl raised hflow =>
      have hscope := h.flows flow
      rw [hflow] at hscope
      cases hstep
      exact h.setFlow ⟨hscope, ascii_headed hevent⟩
    · cases hstep
  | response flow id =>
    simp only [Cache.step] at hstep
    split at hstep
    · next request cacheScope load originalUrl response hflow hidle =>
      have hsound := h.flows flow
      rw [hflow] at hsound
      cases hstep
      exact (h.beginStore id hsound.1 hsound.2).setFlow trivial
    · cases hstep

theorem soundState_start : SoundState py {} where
  loads := by rintro _ _ ⟨⟩
  stores := by rintro _ _ ⟨⟩
  flows _ := trivial

end SoundRuns

/-! ## Loads after a store -/

section Loads

variable {py : PythonText} {bodyDigest : BodyDigest} {hexdigest : Hexdigest} {mirrorHost : String}
  {s s' : Cache}

/-- What an event makes of one call. -/
theorem calls_step {event : CacheEvent}
    (hstep : s.step py bodyDigest hexdigest mirrorHost event = some s') (id : ℕ) :
    s'.calls id = s.calls id ∨
    (∃ call : LoadCall, s.calls id = .idle ∧ s'.calls id = call.begin py bodyDigest hexdigest) ∨
    (∃ call : StoreCall, s.calls id = .idle ∧ s'.calls id = call.begin py bodyDigest hexdigest) ∨
    (∃ call entry point, s.calls id = .loading call entry point ∧
      (s'.calls id = stepLoad (s.entries entry) call entry point ∨ event = .readFails id)) ∨
    ∃ call entry point, s.calls id = .storing call entry point ∧ (s'.calls id).load? = none := by
  have hupdate (id' : ℕ) (state : CallState) : Function.update s.calls id' state id = s.calls id ∨
      id = id' ∧ Function.update s.calls id' state id = state := by
    by_cases heq : id = id'
    · subst heq
      exact Or.inr ⟨rfl, Function.update_self ..⟩
    · exact Or.inl (Function.update_of_ne heq ..)
  cases event with
  | load id' call =>
    simp only [Cache.step] at hstep
    split at hstep
    · next hidle =>
      cases hstep
      refine (hupdate id' _).imp_right ?_
      rintro ⟨heq, hstate⟩
      exact Or.inl ⟨call, heq ▸ hidle, hstate⟩
    · cases hstep
  | store id' call =>
    simp only [Cache.step] at hstep
    split at hstep
    · next hidle =>
      cases hstep
      refine (hupdate id' _).imp_right ?_
      rintro ⟨heq, hstate⟩
      exact Or.inr (Or.inl ⟨call, heq ▸ hidle, hstate⟩)
    · cases hstep
  | step id' =>
    simp only [Cache.step] at hstep
    split at hstep
    · next call entry point hcall =>
      cases hstep
      refine (hupdate id' _).imp_right ?_
      rintro ⟨heq, hstate⟩
      exact Or.inr (Or.inr (Or.inl ⟨call, entry, point, heq ▸ hcall, Or.inl hstate⟩))
    · next call entry point hcall =>
      cases hstep
      refine (hupdate id' _).imp_right ?_
      rintro ⟨heq, hstate⟩
      refine Or.inr (Or.inr (Or.inr ⟨call, entry, point, heq ▸ hcall, ?_⟩))
      exact (congrArg CallState.load? hstate).trans (store?_stepStore ..).2
    · cases hstep
  | writeFails id' text =>
    simp only [Cache.step] at hstep
    split at hstep
    · next call entry point hcall =>
      cases hstep
      refine (hupdate id' _).imp_right ?_
      rintro ⟨heq, hstate⟩
      refine Or.inr (Or.inr (Or.inr ⟨call, entry, point, heq ▸ hcall, ?_⟩))
      exact congrArg CallState.load? hstate
    · cases hstep
  | readFails id' =>
    simp only [Cache.step] at hstep
    split at hstep
    · next call entry point hcall =>
      cases hstep
      refine (hupdate id' _).imp_right ?_
      rintro ⟨heq, hstate⟩
      exact Or.inr (Or.inr (Or.inl ⟨call, entry, point, heq ▸ hcall, Or.inr (by rw [heq])⟩))
    · cases hstep
  | request flow id' request cacheScope =>
    simp only [Cache.step] at hstep
    split at hstep
    · next hflow hidle =>
      cases hstep
      refine (hupdate id' _).imp_right ?_
      rintro ⟨heq, hstate⟩
      exact Or.inl ⟨_, heq ▸ hidle, hstate⟩
    · cases hstep
      exact Or.inl rfl
    · cases hstep
  | requested flow =>
    simp only [Cache.step] at hstep
    split at hstep
    · split at hstep
      · cases hstep
        exact Or.inl rfl
      · cases hstep
    · cases hstep
  | responded flow response =>
    simp only [Cache.step] at hstep
    split at hstep
    · cases hstep
      exact Or.inl rfl
    · cases hstep
  | response flow id' =>
    simp only [Cache.step] at hstep
    split at hstep
    · next hflow hidle =>
      cases hstep
      refine (hupdate id' _).imp_right ?_
      rintro ⟨heq, hstate⟩
      exact Or.inr (Or.inl ⟨_, heq ▸ hidle, hstate⟩)
    · cases hstep

/-- A call that returned stays as it is. -/
theorem settled_step {event : CacheEvent} {id : ℕ}
    (hstep : s.step py bodyDigest hexdigest mirrorHost event = some s')
    (hsettled : (s.calls id).settled = true) : s'.calls id = s.calls id := by
  rcases calls_step hstep id with hsame | ⟨call, hidle, -⟩ | ⟨call, hidle, -⟩ |
    ⟨call, entry, point, hcall, -⟩ | ⟨call, entry, point, hcall, -⟩
  · exact hsame
  · rw [hidle] at hsettled
    cases hsettled
  · rw [hidle] at hsettled
    cases hsettled
  · rw [hcall] at hsettled
    cases hsettled
  · rw [hcall] at hsettled
    cases hsettled

/-- A load of an identity sees one response. -/
def Faithful (py : PythonText) (known : Identity) (response : CachedResponse) : CallState → Prop
  | .loading call _ (.readBody statusCode headers) => call.identity py = .ok (some known) →
    statusCode = response.statusCode ∧ headers = response.headers
  | .loaded call answer => call.identity py = .ok (some known) → answer = .ok (some response)
  | _ => True

theorem faithful_of_load?_none {known : Identity} {response : CachedResponse} {state : CallState}
    (h : state.load? = none) : Faithful py known response state := by
  cases state with
  | loading call entry point => cases h
  | loaded call answer => cases h
  | _ => trivial

theorem faithful_begin {known : Identity} {response : CachedResponse} (call : LoadCall) :
    Faithful py known response (call.begin py bodyDigest hexdigest) := by
  rcases call.begin_cases py bodyDigest hexdigest with ⟨entry, hbegin, -⟩ | ⟨answer, hbegin, -, hnone⟩
  · rw [hbegin]
    trivial
  · rw [hbegin]
    exact fun hknown ↦ absurd hknown (hnone known)

theorem faithful_stepLoad {known : Identity} {dir : Option EntryDir} {call : LoadCall}
    {stored : StoreCall} {entry : String} {point : LoadPoint}
    (h : Faithful py known (stored.response py) (.loading call entry point))
    (hdir : call.identity py = .ok (some known) → dir = some (stored.entry py)) :
    Faithful py known (stored.response py) (stepLoad dir call entry point) := by
  cases point with
  | metaExists =>
    rw [stepLoad]
    split
    · trivial
    · next hnone =>
      intro hknown
      rw [hdir hknown] at hnone
      exact absurd rfl hnone
  | bodyExists =>
    rw [stepLoad]
    split
    · trivial
    · next hnone =>
      intro hknown
      rw [hdir hknown] at hnone
      exact absurd rfl hnone
  | readMeta =>
    have hread : ((some (stored.entry py)).bind EntryDir.metaFile).bind Netcache.readMeta =
        some (stored.statusCode, cacheableHeaders py stored.headers) := readMeta_metaText _ _
    rw [stepLoad]
    split
    · next statusCode headers hmeta =>
      intro hknown
      rw [hdir hknown, hread] at hmeta
      cases hmeta
      exact ⟨rfl, rfl⟩
    · next hmeta =>
      intro hknown
      rw [hdir hknown, hread] at hmeta
      cases hmeta
  | readBody statusCode headers =>
    rw [stepLoad]
    split
    · next body hbody =>
      intro hknown
      obtain ⟨rfl, rfl⟩ := h hknown
      rw [hdir hknown] at hbody
      cases hbody
      rfl
    · next hbody =>
      intro hknown
      rw [hdir hknown] at hbody
      cases hbody

/-- The entry of an identity, after its store. -/
theorem Frozen.entries_eq {store : ℕ} {stored : StoreCall} {identity : Except String (Option Identity)}
    {entry : String} (h : Frozen py bodyDigest hexdigest s)
    (hstored : s.calls store = .stored stored (.ok true)) (hsame : stored.identity py = identity)
    (hnamed : Named bodyDigest hexdigest identity entry) :
    s.entries entry = some (stored.entry py) := by
  have hok := h.calls store
  rw [hstored] at hok
  obtain ⟨entry', hnamed', hfiles⟩ := hok rfl
  rw [hsame] at hnamed'
  rwa [hnamed'.unique hnamed] at hfiles

/-- **Forever**: a load that begins after the store of its identity sees what was stored. -/
theorem Frozen.forever {events : List CacheEvent} {store id : ℕ} {stored : StoreCall}
    {known : Identity} (h : Frozen py bodyDigest hexdigest s)
    (hstored : s.calls store = .stored stored (.ok true))
    (hknown : stored.identity py = .ok (some known)) (hidle : s.calls id = .idle)
    (hreads : ∀ event ∈ events, event ≠ .readFails id)
    (hrun : run (Cache.step py bodyDigest hexdigest mirrorHost) s events = some s') :
    Faithful py known (stored.response py) (s'.calls id) := by
  refine (run_keeps (I := fun s ↦ Frozen py bodyDigest hexdigest s ∧
    s.calls store = .stored stored (.ok true) ∧ Faithful py known (stored.response py) (s.calls id))
    ⟨h, hstored, by rw [hidle]; trivial⟩ ?_ hreads hrun).2.2
  rintro s event s' ⟨h, hstored, hfaithful⟩ hreads hstep
  have hsettled : s'.calls store = s.calls store := settled_step hstep (by rw [hstored]; rfl)
  refine ⟨h.step hstep, hsettled.trans hstored, ?_⟩
  rcases calls_step hstep id with hsame | ⟨call, hidle, hbegin⟩ | ⟨call, hidle, hbegin⟩ |
    ⟨call, entry, point, hcall, hnext | hfails⟩ | ⟨call, entry, point, hcall, hnext⟩
  · rwa [hsame]
  · rw [hbegin]
    exact faithful_begin call
  · exact faithful_of_load?_none (hbegin ▸ (call.store?_begin py bodyDigest hexdigest).2)
  · have hok := h.calls id
    rw [hcall] at hok hfaithful
    rw [hnext]
    exact faithful_stepLoad hfaithful fun hidentity ↦
      h.entries_eq hstored (hknown.trans hidentity.symm) hok.1
  · exact absurd hfails hreads
  · exact faithful_of_load?_none hnext

theorem step_load {id : ℕ} {call : LoadCall} {entry : String} {point : LoadPoint}
    (hcall : s.calls id = .loading call entry point) :
    s.step py bodyDigest hexdigest mirrorHost (.step id) =
      some (s.setCall id (stepLoad (s.entries entry) call entry point)) := by
  simp only [Cache.step, hcall]

/-- A load of an entry that is there returns after four operations. -/
theorem run_steps {id : ℕ} {call : LoadCall} {entry : String} {stored : StoreCall}
    (hcall : s.calls id = .loading call entry .metaExists)
    (hentry : s.entries entry = some (stored.entry py)) :
    run (Cache.step py bodyDigest hexdigest mirrorHost) s (List.replicate 4 (.step id)) =
      some (s.setCall id (.loaded call (.ok (some (stored.response py))))) := by
  have hread : (stored.entry py).metaFile.bind readMeta =
      some (stored.statusCode, cacheableHeaders py stored.headers) := readMeta_metaText _ _
  have hmeta : stepLoad (s.entries entry) call entry .metaExists = .loading call entry .bodyExists := by
    rw [hentry]
    rfl
  have hbody : stepLoad (s.entries entry) call entry .bodyExists = .loading call entry .readMeta := by
    rw [hentry]
    rfl
  have hheaders : stepLoad (s.entries entry) call entry .readMeta =
      .loading call entry (.readBody stored.statusCode (cacheableHeaders py stored.headers)) := by
    rw [stepLoad, hentry, Option.bind_some, hread]
  have hreturn : stepLoad (s.entries entry) call entry
      (.readBody stored.statusCode (cacheableHeaders py stored.headers)) =
        .loaded call (.ok (some (stored.response py))) := by
    rw [hentry]
    rfl
  rw [List.replicate, run_cons, step_load hcall, hmeta, Option.bind_some]
  rw [List.replicate, run_cons, step_load (Cache.calls_setCall ..), Cache.entries_setCall, hbody,
    Option.bind_some, Cache.setCall_setCall]
  rw [List.replicate, run_cons, step_load (Cache.calls_setCall ..), Cache.entries_setCall, hheaders,
    Option.bind_some, Cache.setCall_setCall]
  rw [List.replicate, run_cons, step_load (Cache.calls_setCall ..), Cache.entries_setCall, hreturn,
    Option.bind_some, Cache.setCall_setCall]
  rfl

theorem step_store {id : ℕ} {call : StoreCall} {entry : String} {point : StorePoint}
    (hcall : s.calls id = .storing call entry point) (hfree : s.entries entry = none)
    {next : CallState} (hnext : stepStore py none call entry point = (none, next)) :
    s.step py bodyDigest hexdigest mirrorHost (.step id) = some (s.setCall id next) := by
  simp only [Cache.step, hcall, hfree, hnext]
  rw [← hfree, update_self_entries]

/-- A store that nothing disturbs puts its entry there, after five operations. -/
theorem run_store {id : ℕ} {call : StoreCall} {entry : String}
    (hcall : s.calls id = .storing call entry .entryExists) (hfree : s.entries entry = none) :
    run (Cache.step py bodyDigest hexdigest mirrorHost) s (List.replicate 5 (.step id)) =
      some { s.setCall id (.stored call (.ok true)) with
        entries := Function.update s.entries entry (some (call.entry py)) } := by
  have hexists : stepStore py none call entry .entryExists = (none, .storing call entry .makeDir) := rfl
  have hmake : stepStore py none call entry .makeDir = (none, .storing call entry (.write {})) := rfl
  have hbody : stepStore py none call entry (.write {}) =
      (none, .storing call entry (.write ⟨some call.body, none⟩)) := rfl
  have hmeta : stepStore py none call entry (.write ⟨some call.body, none⟩) =
      (none, .storing call entry (.write (call.entry py))) := rfl
  have hrename : stepStore py none call entry (.write (call.entry py)) =
      (some (call.entry py), .stored call (.ok true)) := rfl
  rw [List.replicate, run_cons, step_store hcall hfree hexists, Option.bind_some]
  rw [List.replicate, run_cons, step_store (Cache.calls_setCall ..) hfree hmake, Option.bind_some,
    Cache.setCall_setCall]
  rw [List.replicate, run_cons, step_store (Cache.calls_setCall ..) hfree hbody, Option.bind_some,
    Cache.setCall_setCall]
  rw [List.replicate, run_cons, step_store (Cache.calls_setCall ..) hfree hmeta, Option.bind_some,
    Cache.setCall_setCall]
  rw [List.replicate, run_cons]
  simp only [Cache.step, Cache.calls_setCall, Cache.setCall_setCall, Cache.entries_setCall]
  rw [hfree, hrename]
  rfl

theorem StoreCall.begin_eq {call : StoreCall} {known : Identity} (hstatus : call.statusCode = 200)
    (hknown : call.identity py = .ok (some known)) :
    ∃ entry, call.begin py bodyDigest hexdigest = .storing call entry .entryExists := by
  obtain ⟨url, hurl⟩ := ofRequest_of_cacheUrl bodyDigest hknown
  rw [StoreCall.begin, if_neg (not_not.mpr hstatus), hurl]
  exact ⟨_, rfl⟩

/-- A load of an identity that was stored begins with its entry. -/
theorem Frozen.begin_eq {store : ℕ} {stored : StoreCall} {known : Identity} {call : LoadCall}
    (h : Frozen py bodyDigest hexdigest s) (hstored : s.calls store = .stored stored (.ok true))
    (hknown : stored.identity py = .ok (some known))
    (hidentity : call.identity py = .ok (some known)) :
    ∃ entry, call.begin py bodyDigest hexdigest = .loading call entry .metaExists ∧
      s.entries entry = some (stored.entry py) := by
  rcases call.begin_cases py bodyDigest hexdigest with ⟨entry, hbegin, hnamed⟩ | ⟨answer, -, -, hnone⟩
  · exact ⟨entry, hbegin, h.entries_eq hstored (hknown.trans hidentity.symm) hnamed⟩
  · exact absurd hidentity (hnone known)

/-- **A request that hits**: it is served what was stored, if that can be served at all. -/
theorem Frozen.run_request {store flow id : ℕ} {stored : StoreCall} {known : Identity}
    {request : FlowRequest} {cacheScope : String} (h : Frozen py bodyDigest hexdigest s)
    (hstored : s.calls store = .stored stored (.ok true))
    (hknown : stored.identity py = .ok (some known))
    (hidentity : ((request.forced py).loadCall cacheScope).identity py = .ok (some known))
    (hflow : s.flows flow = .idle) (hid : s.calls id = .idle) :
    ∃ s', run (Cache.step py bodyDigest hexdigest mirrorHost) s
      (.request flow id request (some cacheScope) :: List.replicate 4 (.step id) ++
        [.requested flow]) = some s' ∧
      s'.calls id = .loaded ((request.forced py).loadCall cacheScope)
        (.ok (some (stored.response py))) ∧
      s'.flows flow = afterLoad py mirrorHost (request.forced py) cacheScope id
        (.ok (some (stored.response py))) := by
  obtain ⟨entry, hbegin, hentry⟩ := h.begin_eq hstored hknown hidentity
  let begun := (s.setCall id (.loading ((request.forced py).loadCall cacheScope) entry
    .metaExists)).setFlow flow (.looking (request.forced py) cacheScope id)
  have hrequest : s.step py bodyDigest hexdigest mirrorHost
      (.request flow id request (some cacheScope)) = some begun := by
    simp only [Cache.step, hflow, hid, hbegin]
    rfl
  let loaded := begun.setCall id (.loaded ((request.forced py).loadCall cacheScope)
    (.ok (some (stored.response py))))
  have hload : run (Cache.step py bodyDigest hexdigest mirrorHost) begun
      (List.replicate 4 (.step id)) = some loaded :=
    run_steps (Function.update_self ..) hentry
  have hflows : loaded.flows flow = .looking (request.forced py) cacheScope id :=
    Function.update_self ..
  have hcalls : loaded.calls id = .loaded ((request.forced py).loadCall cacheScope)
      (.ok (some (stored.response py))) := Function.update_self ..
  refine ⟨loaded.setFlow flow (afterLoad py mirrorHost (request.forced py) cacheScope id
    (.ok (some (stored.response py)))), ?_, hcalls, Function.update_self ..⟩
  rw [List.cons_append, run_cons, hrequest, Option.bind_some, run_append, hload, Option.bind_some,
    run_cons]
  simp only [Cache.step, hflows, hcalls]
  rfl

end Loads

/-! ## First write wins -/

section Freezes

variable (py : PythonText) (bodyDigest : BodyDigest) (hexdigest : Hexdigest) (mirrorHost : String)

/-- The store that returned true for an identity, and its response. -/
def Cache.Holds (s : Cache) (store : ℕ) (known : Identity) (response : CachedResponse) : Prop :=
  ∃ call, s.calls store = .stored call (.ok true) ∧ call.identity py = .ok (some known) ∧
    response = call.response py

/-- The load that `request` began. -/
def Flow.load? : Flow → Option ℕ
  | .looking _ _ load | .served load _ | .passed _ _ load _ _ | .answered _ _ load _ _
  | .storing load _ => some load
  | _ => none

/-- Network freezing is first-write-wins, after some events. -/
structure Freezes (events : List CacheEvent) (s : Cache) : Prop where
  /-- A load returns nothing but what was stored for its identity. -/
  loads : ∀ id call cached, s.calls id = .loaded call (.ok (some cached)) →
    ∃ store known, call.identity py = .ok (some known) ∧ s.Holds py store known cached
  /-- One store returns true for an identity. -/
  once : ∀ store store' known response response', s.Holds py store known response →
    s.Holds py store' known response' → store = store'
  /-- A load that began after the store returned its response. -/
  forever : ∀ before after middle store known response id call answer, events = before ++ after →
    run (Cache.step py bodyDigest hexdigest mirrorHost) {} before = some middle →
    middle.Holds py store known response → middle.calls id = .idle →
    s.calls id = .loaded call answer → call.identity py = .ok (some known) →
    answer = .ok (some response)
  /-- A load that begins now will. -/
  returns : ∀ store known response id call, s.Holds py store known response → s.calls id = .idle →
    call.identity py = .ok (some known) →
    ∃ s', run (Cache.step py bodyDigest hexdigest mirrorHost) s
      (.load id call :: List.replicate 4 (.step id)) = some s' ∧
      s'.calls id = .loaded call (.ok (some response))
  /-- A flow is stored under what it was looked up by. -/
  identity : ∀ flow load store, s.flows flow = .storing load store → ∃ call stored,
    (s.calls load).load? = some call ∧ (s.calls store).store? = some stored ∧
      ∀ known, stored.identity py = .ok (some known) → call.identity py = .ok (some known)
  /-- A flow whose load returned a response is served with it. -/
  hits : ∀ flow load call cached, (s.flows flow).load? = some load →
    s.calls load = .loaded call (.ok (some cached)) →
    (∃ request cacheScope, s.flows flow = .looking request cacheScope load) ∨
      s.flows flow = .served load cached.served

variable {py bodyDigest hexdigest mirrorHost} {s : Cache}

/-- Calls of one entry are of one identity. -/
theorem identity_of_named {identity identity' : Except String (Option Identity)} {entry : String}
    (hscope : ∀ known, identity = .ok (some known) → ScopeOk known.scope)
    (hscope' : ∀ known, identity' = .ok (some known) → ScopeOk known.scope)
    (h : Named bodyDigest hexdigest identity entry) (h' : Named bodyDigest hexdigest identity' entry) :
    identity = identity' := by
  obtain ⟨known, hknown, rfl⟩ := h
  obtain ⟨known', hknown', hentry⟩ := h'
  rw [hknown, hknown', Identity.keyText_inj (hscope known hknown) (hscope' known' hknown')
    (hexdigest.injective hentry)]

theorem Frozen.loads (h : Frozen py bodyDigest hexdigest s) (hsound : SoundState py s) {id : ℕ}
    {call : LoadCall} {cached : CachedResponse} (hcall : s.calls id = .loaded call (.ok (some cached))) :
    ∃ store known, call.identity py = .ok (some known) ∧ s.Holds py store known cached := by
  have hok := h.calls id
  rw [hcall] at hok
  obtain ⟨entry, files, hnamed, hfiles, hread⟩ := hok cached rfl
  obtain ⟨store, stored, hstored, hnamed', rfl⟩ := h.files entry files hfiles
  have hscope : ScopeOk call.cacheScope := hsound.loads id call (by rw [hcall]; rfl)
  have hscope' := (hsound.stores store stored (by rw [hstored]; rfl)).1
  have hsame := identity_of_named (fun known hknown ↦ (ofRequest_some hknown).1 ▸ hscope)
    (fun known hknown ↦ (ofRequest_some hknown).1 ▸ hscope') hnamed hnamed'
  obtain ⟨known, hknown, -⟩ := hnamed
  rw [stored.read_entry] at hread
  exact ⟨store, known, hknown, stored, hstored, hsame.symm.trans hknown, (Option.some.inj hread).symm⟩

theorem Frozen.hits (h : Frozen py bodyDigest hexdigest s) (hsound : SoundState py s) {flow load : ℕ}
    {call : LoadCall} {cached : CachedResponse} (hload : (s.flows flow).load? = some load)
    (hcall : s.calls load = .loaded call (.ok (some cached))) :
    (∃ request cacheScope, s.flows flow = .looking request cacheScope load) ∨
      s.flows flow = .served load cached.served := by
  obtain ⟨store, known, -, stored, hstored, -, rfl⟩ := h.loads hsound hcall
  have hresponse : makeResponse (stored.response py) = some (stored.response py).served :=
    makeResponse_eq_iff.mpr (hsound.stores store stored (by rw [hstored]; rfl)).2
  have hmissed {call : LoadCall} (hmissed : (s.calls load).Missed call) : False := by
    obtain ⟨answer, hanswer, hnone⟩ := hmissed
    cases hcall.symm.trans hanswer
    cases hresponse.symm.trans (hnone _ rfl)
  have hok := h.flows flow
  cases hflow : s.flows flow with
  | idle =>
    rw [hflow] at hload
    cases hload
  | unscoped =>
    rw [hflow] at hload
    cases hload
  | looking request cacheScope load' =>
    rw [hflow] at hload
    cases hload
    exact Or.inl ⟨request, cacheScope, rfl⟩
  | served load' response =>
    rw [hflow] at hload hok
    cases hload
    obtain ⟨call', cached, hcall', hserved⟩ := hok
    cases hcall.symm.trans hcall'
    rw [Option.some.inj (hserved.symm.trans hresponse)]
    exact Or.inr rfl
  | passed request cacheScope load' originalUrl raised =>
    rw [hflow] at hload hok
    cases hload
    exact (hmissed hok.choose_spec.1).elim
  | answered request cacheScope load' originalUrl response =>
    rw [hflow] at hload hok
    cases hload
    exact (hmissed hok.choose_spec.1).elim
  | storing load' store' =>
    rw [hflow] at hload hok
    cases hload
    obtain ⟨call', -, hcall', -⟩ := hok
    exact (hmissed hcall').elim

/-- **First write wins**, in every order of events whose headers are ASCII and whose reads succeed. -/
theorem first_write_wins {events : List CacheEvent} (hevents : ∀ event ∈ events, event.Sound py)
    (hrun : run (Cache.step py bodyDigest hexdigest mirrorHost) {} events = some s) :
    Freezes py bodyDigest hexdigest mirrorHost events s := by
  have hfrozen {events : List CacheEvent} {s : Cache}
      (hrun : run (Cache.step py bodyDigest hexdigest mirrorHost) {} events = some s) :
      Frozen py bodyDigest hexdigest s :=
    run_keeps (E := fun _ ↦ True) frozen_start (fun _ _ _ h _ hstep ↦ h.step hstep)
      (fun _ _ ↦ trivial) hrun
  have h := hfrozen hrun
  have hsound : SoundState py s :=
    run_keeps soundState_start (fun _ _ _ h hevent hstep ↦ h.step hevent hstep) hevents hrun
  exact {
    loads := fun id call cached hcall ↦ h.loads hsound hcall
    once := fun store store' known response response' ⟨call, hcall, hknown, _⟩
        ⟨call', hcall', hknown', _⟩ ↦
      h.once store store' call call' _ hcall hcall' ⟨known, hknown, rfl⟩ ⟨known, hknown', rfl⟩
    forever := by
      rintro before after middle store known response id call answer rfl hbefore
        ⟨stored, hstored, hknown, rfl⟩ hidle hcall hidentity
      obtain ⟨middle', hbefore', hafter⟩ := run_split hrun
      cases hbefore.symm.trans hbefore'
      have hfaithful := (hfrozen hbefore).forever hstored hknown hidle (fun event hevent hreads ↦ ?_)
        hafter
      · rw [hcall] at hfaithful
        exact hfaithful hidentity
      · subst hreads
        exact hevents _ (List.mem_append_right _ hevent)
    returns := by
      rintro store known response id call ⟨stored, hstored, hknown, rfl⟩ hidle hidentity
      obtain ⟨entry, hbegin, hentry⟩ := h.begin_eq hstored hknown hidentity
      have hload : s.step py bodyDigest hexdigest mirrorHost (.load id call) =
          some (s.setCall id (.loading call entry .metaExists)) := by
        simp only [Cache.step, hidle, hbegin]
      refine ⟨(s.setCall id (.loading call entry .metaExists)).setCall id
        (.loaded call (.ok (some (stored.response py)))), ?_, Function.update_self ..⟩
      rw [run_cons, hload, Option.bind_some]
      exact run_steps (Function.update_self ..) hentry
    identity := fun flow load store hflow ↦ by
      have hok := h.flows flow
      rw [hflow] at hok
      obtain ⟨call, stored, ⟨answer, hcall, -⟩, hstored, hsame⟩ := hok
      exact ⟨call, stored, by rw [hcall]; rfl, hstored, hsame⟩
    hits := fun flow load call cached hload hcall ↦ h.hits hsound hload hcall }

end Freezes

/-! ## A page that is looked up again -/

def PythonText.ascii : PythonText where
  lower text := String.ofList (text.toList.map Char.toLower)
  upper text := String.ofList (text.toList.map Char.toUpper)
  isSpace := Char.isWhitespace
  netlocError _ := none

/-- A digest that spells the body out. -/
def BodyDigest.spelled : BodyDigest where
  digest body := Hexdigest.spelled.digest (String.ofList (body.map Char.ofUInt8))
  injective body body' h := by
    have htext := String.ofList_injective (Hexdigest.spelled.injective h)
    refine List.map_injective_iff.mpr (fun byte byte' hbyte ↦ ?_) htext
    have hval : byte.toUInt32 = byte'.toUInt32 := congrArg Char.val hbyte
    exact UInt8.toUInt32_inj.mp hval
  hex body := Hexdigest.spelled.hex _

/-- The response for a page with a title in its headers. -/
def page (title : String) : StoreCall where
  cacheScope := "task"
  method := "GET"
  url := "https://example.com/page"
  requestHeaders := []
  requestBody := []
  statusCode := 200
  headers := [("X-Title", title)]
  body := [0x68, 0x69]

def pageRequest : FlowRequest := ⟨"GET", "https://example.com/page", [], none⟩

def pageIdentity : Identity := ⟨"task", "https://example.com/page", none⟩

/-- The page is stored, and looked up by a flow. -/
def pageEvents (title : String) : List CacheEvent :=
  (.store 0 (page title) :: List.replicate 5 (.step 0)) ++
    (.request 0 1 pageRequest (some "task") :: List.replicate 4 (.step 1) ++ [.requested 0])

theorem identity_page (title : String) : (page title).identity .ascii = .ok (some pageIdentity) := by
  have hlower : PythonText.ascii.lower "X-Title" = "x-title" := by decide +kernel
  have hheaders : ¬(hasUncacheableVary .ascii [("X-Title", title)] = true ∨
      hasHeader .ascii [("X-Title", title)] "content-encoding" = true) := by
    simp [hasUncacheableVary, hasHeader, hlower]
  have hbare : Identity.ofRequest .ascii "task" "GET" "https://example.com/page" [] [] [] =
      .ok (some pageIdentity) := by decide +kernel
  rw [Identity.ofRequest, if_neg (by decide), if_neg (by decide)] at hbare
  rw [StoreCall.identity, page, Identity.ofRequest,
    if_neg (show ¬hasHeader .ascii [] "range" = true by decide), if_neg hheaders]
  exact hbare

theorem identity_pageRequest :
    ((pageRequest.forced .ascii).loadCall "task").identity .ascii = .ok (some pageIdentity) := by
  decide +kernel

/-- The flow finds the page. -/
theorem run_page (title : String) :
    ∃ s, run (Cache.step .ascii .spelled .spelled "snapshot.debian.org") {} (pageEvents title) =
      some s ∧
      s.calls 1 = .loaded ((pageRequest.forced .ascii).loadCall "task")
        (.ok (some ((page title).response .ascii))) ∧
      s.flows 0 = afterLoad .ascii "snapshot.debian.org" (pageRequest.forced .ascii) "task" 1
        (.ok (some ((page title).response .ascii))) := by
  obtain ⟨entry, hbegin⟩ : ∃ entry, (page title).begin .ascii .spelled .spelled =
    .storing (page title) entry .entryExists := StoreCall.begin_eq rfl (identity_page title)
  let begun : Cache := ({} : Cache).setCall 0 (.storing (page title) entry .entryExists)
  let stored : Cache := { begun.setCall 0 (.stored (page title) (.ok true)) with
    entries := Function.update begun.entries entry (some ((page title).entry .ascii)) }
  have hstore : run (Cache.step .ascii .spelled .spelled "snapshot.debian.org") {}
      (.store 0 (page title) :: List.replicate 5 (.step 0)) = some stored := by
    rw [run_cons]
    simp only [Cache.step, hbegin]
    exact run_store (Cache.calls_setCall ..) rfl
  have hfrozen : Frozen .ascii .spelled .spelled stored :=
    run_keeps (E := fun _ ↦ True) frozen_start (fun _ _ _ h _ hstep ↦ h.step hstep)
      (fun _ _ ↦ trivial) hstore
  have hstored : stored.calls 0 = .stored (page title) (.ok true) :=
    Cache.calls_setCall begun 0 (.stored (page title) (.ok true))
  obtain ⟨s, hrun, hcall, hflow⟩ : ∃ s, run (Cache.step .ascii .spelled .spelled
      "snapshot.debian.org") stored (.request 0 1 pageRequest (some "task") ::
        List.replicate 4 (.step 1) ++ [.requested 0]) = some s ∧ _ ∧ _ :=
    hfrozen.run_request hstored (identity_page title) identity_pageRequest rfl rfl
  refine ⟨s, ?_, hcall, hflow⟩
  rw [pageEvents, run_append, hstore]
  exact hrun

/-- A title in ASCII is served. -/
theorem first_write_wins_page :
    (∀ event ∈ pageEvents "A page", event.Sound .ascii) ∧
      ∃ s, run (Cache.step .ascii .spelled .spelled "snapshot.debian.org") {} (pageEvents "A page") =
          some s ∧
        Freezes .ascii .spelled .spelled "snapshot.debian.org" (pageEvents "A page") s ∧
        s.flows 0 = .served 1 ((page "A page").response .ascii).served := by
  have hevents : ∀ event ∈ pageEvents "A page", event.Sound .ascii := by
    intro event hevent
    rcases List.mem_append.mp hevent with hevent | hevent
    · rcases List.mem_cons.mp hevent with rfl | hevent
      · exact ⟨show '\x00' ∉ "task".toList by decide, by decide +kernel⟩
      · rw [List.eq_of_mem_replicate hevent]
        trivial
    · rcases List.mem_append.mp hevent with hevent | hevent
      · rcases List.mem_cons.mp hevent with rfl | hevent
        · exact show '\x00' ∉ "task".toList by decide
        · rw [List.eq_of_mem_replicate hevent]
          trivial
      · rw [List.mem_singleton.mp hevent]
        trivial
  obtain ⟨s, hrun, hcall, hflow⟩ := run_page "A page"
  have hfreezes := first_write_wins hevents hrun
  have hresponse := makeResponse_eq_iff.mpr
    (show AsciiHeaders ((page "A page").response .ascii).headers by decide +kernel)
  rw [afterLoad, hresponse] at hflow
  exact ⟨hevents, s, hrun, hfreezes, hflow⟩

/-- **A title in other letters is not**: `request` raises for the hit, and the flow goes upstream. -/
theorem latin1_hit_passed :
    ∃ s, run (Cache.step .ascii .spelled .spelled "snapshot.debian.org") {} (pageEvents "日本") =
        some s ∧
      ¬Freezes .ascii .spelled .spelled "snapshot.debian.org" (pageEvents "日本") s := by
  obtain ⟨s, hrun, hcall, hflow⟩ := run_page "日本"
  have hresponse : makeResponse ((page "日本").response .ascii) = none := by decide +kernel
  rw [afterLoad, hresponse] at hflow
  refine ⟨s, hrun, fun h ↦ ?_⟩
  rcases h.hits 0 1 _ _ (by rw [hflow]; rfl) hcall with ⟨request, cacheScope, hlooking⟩ | hserved
  · cases hflow.symm.trans hlooking
  · cases hflow.symm.trans hserved

end HarnessTraining.Netcache
