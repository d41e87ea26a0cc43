import HarnessTraining.Env.Netcache.Freeze

/-!
# The invariant of the network freeze

What holds of the network freeze in every order of its events.

* `Frozen` — the invariant: every entry is that of the one store that returned true for it.
* `Frozen.step` — every event keeps it.
-/

set_option autoImplicit false

namespace HarnessTraining.Netcache

/-! ## What a call is about -/

section Identities

variable (py : PythonText) (bodyDigest : BodyDigest) (hexdigest : Hexdigest)

def LoadCall.identity (call : LoadCall) : Except String (Option Identity) :=
  Identity.ofRequest py call.cacheScope call.method call.url call.requestHeaders call.requestBody []

def StoreCall.identity (call : StoreCall) : Except String (Option Identity) :=
  Identity.ofRequest py call.cacheScope call.method call.url call.requestHeaders call.requestBody
    call.headers

/-- The response that a store freezes. -/
def StoreCall.response (call : StoreCall) : CachedResponse :=
  ⟨call.statusCode, cacheableHeaders py call.headers, call.body⟩

/-- The entry of an identity. -/
def Named (identity : Except String (Option Identity)) (entry : String) : Prop :=
  ∃ known, identity = .ok (some known) ∧ entry = hexdigest.digest (known.keyText bodyDigest)

end Identities

section Facts

variable {py : PythonText} {bodyDigest : BodyDigest} {hexdigest : Hexdigest} {mirrorHost : String}

theorem Named.unique {identity : Except String (Option Identity)} {entry entry' : String}
    (h : Named bodyDigest hexdigest identity entry) (h' : Named bodyDigest hexdigest identity entry') :
    entry = entry' := by
  obtain ⟨known, hknown, rfl⟩ := h
  obtain ⟨known', hknown', rfl⟩ := h'
  cases hknown.symm.trans hknown'
  rfl

theorem StoreCall.read_entry (call : StoreCall) : (call.entry py).read = some (call.response py) := by
  rw [EntryDir.read, StoreCall.entry, Option.bind_some, readMeta_metaText]
  rfl

/-- The key of an entry is that of an identity. -/
theorem cacheEntryDir_eq {scope method url entryUrl : String} {requestHeaders responseHeaders : Headers}
    {requestBody : Bytes}
    (h : cacheUrl py bodyDigest method url requestHeaders requestBody responseHeaders =
      .ok (some entryUrl)) :
    Named bodyDigest hexdigest
      (Identity.ofRequest py scope method url requestHeaders requestBody responseHeaders)
      (cacheEntryDir py hexdigest scope method entryUrl) := by
  rw [cacheUrl_eq scope] at h
  cases hidentity : Identity.ofRequest py scope method url requestHeaders requestBody
      responseHeaders with
  | error text =>
    rw [hidentity] at h
    cases h
  | ok known =>
    rw [hidentity] at h
    cases known with
    | none => cases h
    | some known =>
      cases h
      obtain ⟨hscope, hmethod⟩ := ofRequest_some hidentity
      exact ⟨known, rfl, by rw [cacheEntryDir, Identity.keyText, hscope, hmethod]⟩

/-- A request whose response cannot be frozen. -/
theorem ofRequest_of_cacheUrl (bodyDigest : BodyDigest) {scope method url : String}
    {requestHeaders responseHeaders : Headers} {requestBody : Bytes} {known : Identity}
    (h : Identity.ofRequest py scope method url requestHeaders requestBody responseHeaders =
      .ok (some known)) :
    ∃ entryUrl, cacheUrl py bodyDigest method url requestHeaders requestBody responseHeaders =
      .ok (some entryUrl) := by
  rw [cacheUrl_eq scope, h]
  exact ⟨_, rfl⟩

theorem LoadCall.begin_cases (py : PythonText) (bodyDigest : BodyDigest) (hexdigest : Hexdigest)
    (call : LoadCall) :
    (∃ entry, call.begin py bodyDigest hexdigest = .loading call entry .metaExists ∧
      Named bodyDigest hexdigest (call.identity py) entry) ∨
    ∃ answer, call.begin py bodyDigest hexdigest = .loaded call answer ∧
      (∀ cached, answer ≠ .ok (some cached)) ∧ ∀ known, call.identity py ≠ .ok (some known) := by
  have hunknown {answer : Except String (Option String)}
      (h : cacheUrl py bodyDigest call.method call.url call.requestHeaders call.requestBody [] = answer)
      (hanswer : ∀ url, answer ≠ .ok (some url)) (known : Identity) :
      call.identity py ≠ .ok (some known) := by
    intro hidentity
    obtain ⟨url, hurl⟩ := ofRequest_of_cacheUrl bodyDigest hidentity
    exact hanswer url (h.symm.trans hurl)
  rw [LoadCall.begin]
  cases hurl : cacheUrl py bodyDigest call.method call.url call.requestHeaders call.requestBody [] with
  | error text => exact Or.inr ⟨_, rfl, by simp, hunknown hurl (by simp)⟩
  | ok url =>
    cases url with
    | none => exact Or.inr ⟨_, rfl, by simp, hunknown hurl (by simp)⟩
    | some url => exact Or.inl ⟨_, rfl, cacheEntryDir_eq hurl⟩

theorem StoreCall.begin_cases (py : PythonText) (bodyDigest : BodyDigest) (hexdigest : Hexdigest)
    (call : StoreCall) :
    (∃ entry, call.begin py bodyDigest hexdigest = .storing call entry .entryExists ∧
      Named bodyDigest hexdigest (call.identity py) entry) ∨
    ∃ answer, call.begin py bodyDigest hexdigest = .stored call answer ∧ answer ≠ .ok true := by
  rw [StoreCall.begin]
  split
  · exact Or.inr ⟨_, rfl, by simp⟩
  cases hurl : cacheUrl py bodyDigest call.method call.url call.requestHeaders call.requestBody
      call.headers with
  | error text => exact Or.inr ⟨_, rfl, by simp⟩
  | ok url =>
    cases url with
    | none => exact Or.inr ⟨_, rfl, by simp⟩
    | some url => exact Or.inl ⟨_, rfl, cacheEntryDir_eq hurl⟩

end Facts

/-! ## The invariant -/

/-- The load that a call is. -/
def CallState.load? : CallState → Option LoadCall
  | .loading call _ _ | .loaded call _ => some call
  | _ => none

/-- The store that a call is. -/
def CallState.store? : CallState → Option StoreCall
  | .storing call _ _ | .stored call _ => some call
  | _ => none

/-- The call returned. -/
def CallState.settled : CallState → Bool
  | .loaded _ _ | .stored _ _ => true
  | _ => false

/-- A load without a response that can be served. -/
def CallState.Missed (state : CallState) (call : LoadCall) : Prop :=
  ∃ answer, state = .loaded call answer ∧
    ∀ cached, answer = .ok (some cached) → makeResponse cached = none

/-- One state of a call follows another. -/
structure Advances (before after : CallState) : Prop where
  unsettled : before.settled = false
  load : ∀ call, before.load? = some call → after.load? = some call
  store : ∀ call, before.store? = some call → after.store? = some call

section Invariant

variable (py : PythonText) (bodyDigest : BodyDigest) (hexdigest : Hexdigest)

/-- What is known at a point of a load. -/
def LoadPoint.Ok (dir : Option EntryDir) : LoadPoint → Prop
  | .readBody statusCode headers =>
    ∃ files, dir = some files ∧ files.metaFile.bind Netcache.readMeta = some (statusCode, headers)
  | _ => True

/-- What was written at a point of a store. -/
def StorePoint.Ok (call : StoreCall) : StorePoint → Prop
  | .write files => files = {} ∨ files = ⟨some call.body, none⟩ ∨ files = call.entry py
  | _ => True

/-- What is known of a call. -/
def CallOk (entries : String → Option EntryDir) : CallState → Prop
  | .idle => True
  | .loading call entry point =>
    Named bodyDigest hexdigest (call.identity py) entry ∧ point.Ok (entries entry)
  | .loaded call answer => ∀ cached, answer = .ok (some cached) → ∃ entry files,
    Named bodyDigest hexdigest (call.identity py) entry ∧ entries entry = some files ∧
      files.read = some cached
  | .storing call entry point =>
    Named bodyDigest hexdigest (call.identity py) entry ∧ point.Ok py call
  | .stored call answer => answer = .ok true → ∃ entry,
    Named bodyDigest hexdigest (call.identity py) entry ∧ entries entry = some (call.entry py)

/-- The load of a flow is of the request that is stored. -/
structure LookedUp (call : LoadCall) (request : FlowRequest) (cacheScope : String)
    (originalUrl : Option String) : Prop where
  cacheScope : call.cacheScope = cacheScope
  method : call.method = request.method
  url : call.url = identityUrl request originalUrl
  body : call.requestBody = request.rawContent.getD []
  range : hasHeader py call.requestHeaders "range" = true → hasHeader py request.headers "range" = true

/-- What is known of a flow. -/
def FlowOk (calls : ℕ → CallState) : Flow → Prop
  | .looking request cacheScope load => (calls load).load? = some (request.loadCall cacheScope)
  | .served load response => ∃ call cached, calls load = .loaded call (.ok (some cached)) ∧
    makeResponse cached = some response
  | .passed request cacheScope load originalUrl _
  | .answered request cacheScope load originalUrl _ => ∃ call, (calls load).Missed call ∧
    LookedUp py call request cacheScope originalUrl
  | .storing load store => ∃ call call', (calls load).Missed call ∧
    (calls store).store? = some call' ∧
      ∀ known, call'.identity py = .ok (some known) → call.identity py = .ok (some known)
  | _ => True

/-- **The invariant of a run**: every entry is that of the one store that returned true for it. -/
structure Frozen (s : Cache) : Prop where
  calls : ∀ id, CallOk py bodyDigest hexdigest s.entries (s.calls id)
  files : ∀ entry files, s.entries entry = some files → ∃ id call,
    s.calls id = .stored call (.ok true) ∧ Named bodyDigest hexdigest (call.identity py) entry ∧
      files = call.entry py
  once : ∀ id id' call call' entry, s.calls id = .stored call (.ok true) →
    s.calls id' = .stored call' (.ok true) → Named bodyDigest hexdigest (call.identity py) entry →
    Named bodyDigest hexdigest (call'.identity py) entry → id = id'
  flows : ∀ flow, FlowOk py s.calls (s.flows flow)

end Invariant

section Steps

variable {py : PythonText} {bodyDigest : BodyDigest} {hexdigest : Hexdigest} {mirrorHost : String}
  {s : Cache}

theorem CallOk.mono {entries entries' : String → Option EntryDir} {state : CallState}
    (h : CallOk py bodyDigest hexdigest entries state)
    (hgrown : ∀ entry files, entries entry = some files → entries' entry = some files) :
    CallOk py bodyDigest hexdigest entries' state := by
  cases state with
  | idle => trivial
  | loading call entry point =>
    refine ⟨h.1, ?_⟩
    cases point with
    | readBody statusCode headers =>
      obtain ⟨files, hfiles, hread⟩ := h.2
      exact ⟨files, hgrown _ _ hfiles, hread⟩
    | _ => trivial
  | loaded call answer =>
    intro cached hanswer
    obtain ⟨entry, files, hnamed, hfiles, hread⟩ := h cached hanswer
    exact ⟨entry, files, hnamed, hgrown _ _ hfiles, hread⟩
  | storing call entry point => exact h
  | stored call answer =>
    intro hanswer
    obtain ⟨entry, hnamed, hfiles⟩ := h hanswer
    exact ⟨entry, hnamed, hgrown _ _ hfiles⟩

theorem FlowOk.mono {calls : ℕ → CallState} {flow : Flow} {id : ℕ} {state : CallState}
    (h : FlowOk py calls flow) (hadvances : Advances (calls id) state) :
    FlowOk py (Function.update calls id state) flow := by
  have hload {load : ℕ} {call : LoadCall} (hcall : (calls load).load? = some call) :
      (Function.update calls id state load).load? = some call := by
    by_cases heq : load = id
    · subst heq
      rw [Function.update_self]
      exact hadvances.load call hcall
    · rwa [Function.update_of_ne heq]
  have hstore {store : ℕ} {call : StoreCall} (hcall : (calls store).store? = some call) :
      (Function.update calls id state store).store? = some call := by
    by_cases heq : store = id
    · subst heq
      rw [Function.update_self]
      exact hadvances.store call hcall
    · rwa [Function.update_of_ne heq]
  have hloaded {load : ℕ} {call : LoadCall} {answer : Except String (Option CachedResponse)}
      (hcall : calls load = .loaded call answer) :
      Function.update calls id state load = .loaded call answer := by
    rwa [Function.update_of_ne]
    rintro rfl
    have hunsettled := hadvances.unsettled
    rw [hcall] at hunsettled
    cases hunsettled
  have hmissed {load : ℕ} {call : LoadCall} (hcall : (calls load).Missed call) :
      (Function.update calls id state load).Missed call :=
    hcall.imp fun _ hanswer ↦ ⟨hloaded hanswer.1, hanswer.2⟩
  cases flow with
  | idle => trivial
  | unscoped => trivial
  | looking request cacheScope load => exact hload h
  | served load response =>
    obtain ⟨call, cached, hcall, hresponse⟩ := h
    exact ⟨call, cached, hloaded hcall, hresponse⟩
  | passed request cacheScope load originalUrl raised =>
    exact h.imp fun call hcall ↦ ⟨hmissed hcall.1, hcall.2⟩
  | answered request cacheScope load originalUrl response =>
    exact h.imp fun call hcall ↦ ⟨hmissed hcall.1, hcall.2⟩
  | storing load store =>
    obtain ⟨call, call', hcall, hcall', hsame⟩ := h
    exact ⟨call, call', hmissed hcall, hstore hcall', hsame⟩

/-- A call goes on, and the entries stay as they are. -/
theorem Frozen.setCall {id : ℕ} {state : CallState} (h : Frozen py bodyDigest hexdigest s)
    (hadvances : Advances (s.calls id) state)
    (hok : CallOk py bodyDigest hexdigest s.entries state)
    (hfalse : ∀ call, state ≠ .stored call (.ok true)) :
    Frozen py bodyDigest hexdigest (s.setCall id state) := by
  have hstored {id' : ℕ} {call : StoreCall} :
      (s.setCall id state).calls id' = .stored call (.ok true) ↔
        s.calls id' = .stored call (.ok true) := by
    dsimp only [Cache.setCall]
    by_cases heq : id' = id
    · subst heq
      rw [Function.update_self]
      refine ⟨fun hstate ↦ absurd hstate (hfalse call), fun hbefore ↦ ?_⟩
      have hunsettled := hadvances.unsettled
      rw [hbefore] at hunsettled
      cases hunsettled
    · rw [Function.update_of_ne heq]
  exact {
    calls := fun id' ↦ by
      dsimp only [Cache.setCall]
      by_cases heq : id' = id
      · subst heq
        rwa [Function.update_self]
      · rw [Function.update_of_ne heq]
        exact h.calls id'
    files := fun entry files hfiles ↦ by
      obtain ⟨id', call, hcall, hrest⟩ := h.files entry files hfiles
      exact ⟨id', call, hstored.mpr hcall, hrest⟩
    once := fun id' id'' call call' entry hcall hcall' ↦
      h.once id' id'' call call' entry (hstored.mp hcall) (hstored.mp hcall')
    flows := fun flow ↦ (h.flows flow).mono hadvances }

/-- A store puts its directory in the place of an entry that is not there. -/
theorem Frozen.publish {id : ℕ} {call : StoreCall} {entry : String}
    (h : Frozen py bodyDigest hexdigest s) (hadvances : Advances (s.calls id) (.stored call (.ok true)))
    (hnamed : Named bodyDigest hexdigest (call.identity py) entry) (hfree : s.entries entry = none) :
    Frozen py bodyDigest hexdigest { s.setCall id (.stored call (.ok true)) with
      entries := Function.update s.entries entry (some (call.entry py)) } := by
  have hgrown : ∀ entry' files, s.entries entry' = some files →
      Function.update s.entries entry (some (call.entry py)) entry' = some files := by
    intro entry' files hfiles
    rwa [Function.update_of_ne]
    rintro rfl
    cases hfree.symm.trans hfiles
  have hstored {id' : ℕ} {call' : StoreCall}
      (hcall' : Function.update s.calls id (.stored call (.ok true)) id' = .stored call' (.ok true)) :
      id' = id ∧ call' = call ∨ id' ≠ id ∧ s.calls id' = .stored call' (.ok true) := by
    by_cases heq : id' = id
    · subst heq
      rw [Function.update_self] at hcall'
      cases hcall'
      exact Or.inl ⟨rfl, rfl⟩
    · rw [Function.update_of_ne heq] at hcall'
      exact Or.inr ⟨heq, hcall'⟩
  -- a store that returned true before is of another entry
  have hother {id' : ℕ} {call' : StoreCall} (hcall' : s.calls id' = .stored call' (.ok true)) :
      ¬Named bodyDigest hexdigest (call'.identity py) entry := by
    intro hnamed'
    have hok := h.calls id'
    rw [hcall'] at hok
    obtain ⟨entry', hentry', hfiles⟩ := hok rfl
    rw [hentry'.unique hnamed'] at hfiles
    cases hfree.symm.trans hfiles
  exact {
    calls := fun id' ↦ by
      dsimp only [Cache.setCall]
      by_cases heq : id' = id
      · subst heq
        rw [Function.update_self]
        exact fun _ ↦ ⟨entry, hnamed, Function.update_self ..⟩
      · rw [Function.update_of_ne heq]
        exact (h.calls id').mono hgrown
    files := fun entry' files hfiles ↦ by
      dsimp only [Cache.setCall] at hfiles ⊢
      by_cases heq : entry' = entry
      · subst heq
        rw [Function.update_self] at hfiles
        cases hfiles
        exact ⟨id, call, Function.update_self .., hnamed, rfl⟩
      · rw [Function.update_of_ne heq] at hfiles
        obtain ⟨id', call', hcall', hrest⟩ := h.files entry' files hfiles
        refine ⟨id', call', ?_, hrest⟩
        rwa [Function.update_of_ne]
        rintro rfl
        have hunsettled := hadvances.unsettled
        rw [hcall'] at hunsettled
        cases hunsettled
    once := fun id₁ id₂ call₁ call₂ entry' hcall₁ hcall₂ hnamed₁ hnamed₂ ↦ by
      rcases hstored hcall₁ with ⟨rfl, rfl⟩ | ⟨-, hbefore₁⟩
      · rcases hstored hcall₂ with ⟨rfl, rfl⟩ | ⟨-, hbefore₂⟩
        · rfl
        · exact absurd (hnamed₁.unique hnamed ▸ hnamed₂) (hother hbefore₂)
      · rcases hstored hcall₂ with ⟨rfl, rfl⟩ | ⟨-, hbefore₂⟩
        · exact absurd (hnamed₂.unique hnamed ▸ hnamed₁) (hother hbefore₁)
        · exact h.once id₁ id₂ call₁ call₂ entry' hbefore₁ hbefore₂ hnamed₁ hnamed₂
    flows := fun flow ↦ (h.flows flow).mono hadvances }

/-- A flow goes on. -/
theorem Frozen.setFlow {flow : ℕ} {state : Flow} (h : Frozen py bodyDigest hexdigest s)
    (hok : FlowOk py s.calls state) : Frozen py bodyDigest hexdigest (s.setFlow flow state) where
  calls := h.calls
  files := h.files
  once := h.once
  flows flow' := by
    dsimp only [Cache.setFlow]
    by_cases heq : flow' = flow
    · subst heq
      rwa [Function.update_self]
    · rw [Function.update_of_ne heq]
      exact h.flows flow'

/-! ## One operation of a call -/

theorem stepLoad_ok {entries : String → Option EntryDir} {call : LoadCall} {entry : String}
    {point : LoadPoint}
    (h : CallOk py bodyDigest hexdigest entries (.loading call entry point)) :
    CallOk py bodyDigest hexdigest entries (stepLoad (entries entry) call entry point) := by
  cases point with
  | metaExists =>
    rw [stepLoad]
    split
    · exact ⟨h.1, trivial⟩
    · exact fun cached hanswer ↦ nomatch hanswer
  | bodyExists =>
    rw [stepLoad]
    split
    · exact ⟨h.1, trivial⟩
    · exact fun cached hanswer ↦ nomatch hanswer
  | readMeta =>
    rw [stepLoad]
    cases hdir : entries entry with
    | none => exact fun cached hanswer ↦ nomatch hanswer
    | some files =>
      rw [Option.bind_some]
      cases hread : files.metaFile.bind readMeta with
      | none => exact fun cached hanswer ↦ nomatch hanswer
      | some read => exact ⟨h.1, files, hdir, hread⟩
  | readBody statusCode headers =>
    obtain ⟨hnamed, files, hfiles, hread⟩ := h
    rw [stepLoad, hfiles, Option.bind_some]
    cases hbody : files.body with
    | none => exact fun cached hanswer ↦ nomatch hanswer
    | some body =>
      intro cached hanswer
      cases hanswer
      refine ⟨entry, files, hnamed, hfiles, ?_⟩
      rw [EntryDir.read, hread, Option.bind_eq_bind, Option.bind_some, hbody]
      rfl

theorem load?_stepLoad (dir : Option EntryDir) (call : LoadCall) (entry : String) (point : LoadPoint) :
    (stepLoad dir call entry point).load? = some call := by
  unfold stepLoad
  split <;> split <;> rfl

theorem store?_stepLoad (dir : Option EntryDir) (call : LoadCall) (entry : String)
    (point : LoadPoint) : (stepLoad dir call entry point).store? = none := by
  unfold stepLoad
  split <;> split <;> rfl

/-- One operation of a store: it goes on, it finds the entry, or it puts the entry there. -/
theorem stepStore_cases {dir : Option EntryDir} {call : StoreCall} {entry : String}
    {point : StorePoint} (hpoint : point.Ok py call)
    (hdir : ∀ files, dir = some files → files.body.isSome = true) :
    (∃ point', stepStore py dir call entry point = (dir, .storing call entry point') ∧
      point'.Ok py call) ∨
    stepStore py dir call entry point = (dir, .stored call (.ok false)) ∨
    dir = none ∧ stepStore py dir call entry point = (some (call.entry py), .stored call (.ok true)) := by
  cases point with
  | entryExists =>
    rw [stepStore]
    split
    · exact Or.inr (Or.inl rfl)
    · exact Or.inl ⟨_, rfl, trivial⟩
  | makeDir => exact Or.inl ⟨_, rfl, Or.inl rfl⟩
  | write files =>
    rcases hpoint with rfl | rfl | rfl
    · exact Or.inl ⟨_, rfl, Or.inr (Or.inl rfl)⟩
    · exact Or.inl ⟨_, rfl, Or.inr (Or.inr rfl)⟩
    · cases dir with
      | none => exact Or.inr (Or.inr ⟨rfl, rfl⟩)
      | some existing =>
        obtain ⟨body, metaFile⟩ := existing
        cases body with
        | none => cases hdir _ rfl
        | some body => exact Or.inr (Or.inl rfl)

theorem advances_stepLoad {dir : Option EntryDir} {call : LoadCall} {entry : String}
    {point : LoadPoint} :
    Advances (.loading call entry point) (stepLoad dir call entry point) where
  unsettled := rfl
  load _ h := by
    rw [load?_stepLoad]
    exact h
  store _ h := nomatch h

theorem advances_of_idle (state : CallState) : Advances .idle state where
  unsettled := rfl
  load _ h := nomatch h
  store _ h := nomatch h

theorem advances_storing {call : StoreCall} {entry : String} {point : StorePoint} {state : CallState}
    (hstate : state.store? = some call) : Advances (.storing call entry point) state where
  unsettled := rfl
  load _ h := nomatch h
  store _ h := hstate.trans h

theorem LoadCall.load?_begin (py : PythonText) (bodyDigest : BodyDigest) (hexdigest : Hexdigest)
    (call : LoadCall) :
    (call.begin py bodyDigest hexdigest).load? = some call ∧
      (call.begin py bodyDigest hexdigest).store? = none := by
  rcases call.begin_cases py bodyDigest hexdigest with
    ⟨entry, hbegin, -⟩ | ⟨answer, hbegin, -⟩
  · rw [hbegin]
    exact ⟨rfl, rfl⟩
  · rw [hbegin]
    exact ⟨rfl, rfl⟩

theorem StoreCall.store?_begin (py : PythonText) (bodyDigest : BodyDigest) (hexdigest : Hexdigest)
    (call : StoreCall) :
    (call.begin py bodyDigest hexdigest).store? = some call ∧
      (call.begin py bodyDigest hexdigest).load? = none := by
  rcases call.begin_cases py bodyDigest hexdigest with
    ⟨entry, hbegin, -⟩ | ⟨answer, hbegin, -⟩
  · rw [hbegin]
    exact ⟨rfl, rfl⟩
  · rw [hbegin]
    exact ⟨rfl, rfl⟩

/-- A load begins. -/
theorem Frozen.beginLoad {id : ℕ} (h : Frozen py bodyDigest hexdigest s) (hidle : s.calls id = .idle)
    (call : LoadCall) :
    Frozen py bodyDigest hexdigest (s.setCall id (call.begin py bodyDigest hexdigest)) := by
  refine h.setCall (hidle ▸ advances_of_idle _) ?_ fun call' hstored ↦ ?_
  · rcases call.begin_cases py bodyDigest hexdigest with ⟨entry, hbegin, hnamed⟩ | ⟨answer, hbegin, hanswer, -⟩
    · rw [hbegin]
      exact ⟨hnamed, trivial⟩
    · rw [hbegin]
      exact fun cached hcached ↦ absurd hcached (hanswer cached)
  · have hload := call.load?_begin py bodyDigest hexdigest
    rw [hstored] at hload
    cases hload.1

/-- A store begins. -/
theorem Frozen.beginStore {id : ℕ} (h : Frozen py bodyDigest hexdigest s)
    (hidle : s.calls id = .idle) (call : StoreCall) :
    Frozen py bodyDigest hexdigest (s.setCall id (call.begin py bodyDigest hexdigest)) := by
  refine h.setCall (hidle ▸ advances_of_idle _) ?_ ?_
  · rcases call.begin_cases py bodyDigest hexdigest with ⟨entry, hbegin, hnamed⟩ | ⟨answer, hbegin, hanswer⟩
    · rw [hbegin]
      exact ⟨hnamed, trivial⟩
    · rw [hbegin]
      exact fun htrue ↦ absurd htrue hanswer
  · intro call' hstored
    rcases call.begin_cases py bodyDigest hexdigest with
      ⟨entry, hbegin, -⟩ | ⟨answer, hbegin, hanswer⟩
    · cases hbegin.symm.trans hstored
    · cases hbegin.symm.trans hstored
      exact hanswer rfl

/-- Every entry is complete. -/
theorem Frozen.body_isSome (h : Frozen py bodyDigest hexdigest s) {entry : String} {files : EntryDir}
    (hfiles : s.entries entry = some files) : files.body.isSome = true := by
  obtain ⟨id, call, -, -, rfl⟩ := h.files entry files hfiles
  rfl

theorem update_self_entries (entry : String) (state : CallState) (id : ℕ) :
    { s.setCall id state with entries := Function.update s.entries entry (s.entries entry) } =
      s.setCall id state := by
  rw [Function.update_eq_self]
  rfl

theorem Frozen.stepCall {id : ℕ} {call : StoreCall} {entry : String} {point : StorePoint}
    (h : Frozen py bodyDigest hexdigest s) (hcall : s.calls id = .storing call entry point) :
    Frozen py bodyDigest hexdigest
      { s.setCall id (stepStore py (s.entries entry) call entry point).2 with
        entries := Function.update s.entries entry
          (stepStore py (s.entries entry) call entry point).1 } := by
  have hok := h.calls id
  rw [hcall] at hok
  rcases stepStore_cases hok.2 (fun files hfiles ↦ h.body_isSome hfiles) with
    ⟨point', hstep, hpoint'⟩ | hstep | ⟨hfree, hstep⟩
  · rw [hstep, update_self_entries]
    exact h.setCall (hcall ▸ advances_storing rfl) ⟨hok.1, hpoint'⟩ (by simp)
  · rw [hstep, update_self_entries]
    exact h.setCall (hcall ▸ advances_storing rfl) (fun htrue ↦ nomatch htrue) (by simp)
  · rw [hstep]
    exact h.publish (hcall ▸ advances_storing rfl) hok.1 hfree

/-! ## The hooks of a flow -/

/-- A flow keeps the load that its request began. -/
theorem flowOk_afterLoad {request : FlowRequest} {cacheScope : String} {load : ℕ}
    {answer : Except String (Option CachedResponse)}
    (hload : s.calls load = .loaded (request.loadCall cacheScope) answer) :
    FlowOk py s.calls (afterLoad py mirrorHost request cacheScope load answer) := by
  have hsame : LookedUp py (request.loadCall cacheScope) request cacheScope none :=
    ⟨rfl, rfl, rfl, rfl, id⟩
  cases answer with
  | error text => exact ⟨_, ⟨_, hload, fun cached hcached ↦ nomatch hcached⟩, hsame⟩
  | ok cached =>
    cases cached with
    | some cached =>
      rw [afterLoad]
      cases hresponse : makeResponse cached with
      | some response => exact ⟨_, cached, hload, hresponse⟩
      | none =>
        refine ⟨_, ⟨_, hload, fun cached' hcached ↦ ?_⟩, hsame⟩
        cases hcached
        exact hresponse
    | none =>
      have hmissed : (s.calls load).Missed (request.loadCall cacheScope) :=
        ⟨_, hload, fun cached hcached ↦ nomatch hcached⟩
      rw [afterLoad]
      cases pinnedUpstreamUrl py mirrorHost request.prettyUrl with
      | error text => exact ⟨_, hmissed, hsame⟩
      | ok url =>
        cases url with
        | none => exact ⟨_, hmissed, hsame⟩
        | some url =>
          refine ⟨_, hmissed, rfl, rfl, rfl, rfl, fun hrange ↦ ?_⟩
          obtain ⟨header, hheader, hname⟩ := List.any_eq_true.mp hrange
          refine List.any_eq_true.mpr ⟨header, List.mem_append_left _ (List.mem_filter.mpr
            ⟨hheader, decide_eq_true fun hhost ↦ ?_⟩), hname⟩
          rw [of_decide_eq_true hname] at hhost
          exact absurd hhost (by decide)

/-- A response is stored under what its request was looked up by. -/
theorem LookedUp.identity {call : LoadCall} {request : FlowRequest} {cacheScope : String}
    {originalUrl : Option String} (h : LookedUp py call request cacheScope originalUrl)
    (response : FlowResponse) {known : Identity}
    (hknown : (response.storeCall request cacheScope originalUrl).identity py = .ok (some known)) :
    call.identity py = .ok (some known) := by
  have hknown : Identity.ofRequest py cacheScope request.method (identityUrl request originalUrl)
    request.headers (request.rawContent.getD []) response.headers = .ok (some known) := hknown
  rw [LoadCall.identity, h.cacheScope, h.method, h.url, h.body]
  rw [Identity.ofRequest] at hknown ⊢
  split at hknown
  · cases hknown
  next hrange =>
    rw [if_neg (mt h.range hrange), if_neg (by simp [hasUncacheableVary, hasHeader])]
    split at hknown
    · cases hknown
    · exact hknown

/-- **Every event keeps the invariant.** -/
theorem Frozen.step {event : CacheEvent} {s' : Cache} (h : Frozen py bodyDigest hexdigest s)
    (hstep : s.step py bodyDigest hexdigest mirrorHost event = some s') :
    Frozen py bodyDigest hexdigest s' := by
  cases event with
  | load id call =>
    simp only [Cache.step] at hstep
    split at hstep
    · next hidle =>
      cases hstep
      exact h.beginLoad hidle call
    · cases hstep
  | store id call =>
    simp only [Cache.step] at hstep
    split at hstep
    · next hidle =>
      cases hstep
      exact h.beginStore hidle call
    · cases hstep
  | step id =>
    simp only [Cache.step] at hstep
    split at hstep
    · next call entry point hcall =>
      cases hstep
      have hok := h.calls id
      rw [hcall] at hok
      refine h.setCall (hcall ▸ advances_stepLoad) (stepLoad_ok hok) fun call' hstored ↦ ?_
      have hload := load?_stepLoad (s.entries entry) call entry point
      rw [hstored] at hload
      cases hload
    · next call entry point hcall =>
      cases hstep
      exact h.stepCall hcall
    · cases hstep
  | writeFails id text =>
    simp only [Cache.step] at hstep
    split at hstep
    · next call entry point hcall =>
      cases hstep
      exact h.setCall (hcall ▸ advances_storing rfl) (fun htrue ↦ nomatch htrue) (by simp)
    · cases hstep
  | readFails id =>
    simp only [Cache.step] at hstep
    split at hstep
    · next call entry point hcall =>
      cases hstep
      exact h.setCall (hcall ▸ ⟨rfl, fun _ hload ↦ hload, fun _ hstore ↦ nomatch hstore⟩)
        (fun cached hcached ↦ nomatch hcached) (by simp)
    · cases hstep
  | request flow id request cacheScope =>
    simp only [Cache.step] at hstep
    split at hstep
    · next hflow hidle =>
      cases hstep
      refine (h.beginLoad hidle _).setFlow ?_
      dsimp only [FlowOk, Cache.setCall]
      rw [Function.update_self]
      exact (LoadCall.load?_begin py bodyDigest hexdigest _).1
    · cases hstep
      exact h.setFlow trivial
    · cases hstep
  | requested flow =>
    simp only [Cache.step] at hstep
    split at hstep
    · next request cacheScope load hflow =>
      split at hstep
      · next call answer hcall =>
        cases hstep
        have hok := h.flows flow
        rw [hflow, FlowOk, hcall] at hok
        cases hok
        exact h.setFlow (flowOk_afterLoad hcall)
      · cases hstep
    · cases hstep
  | responded flow response =>
    simp only [Cache.step] at hstep
    split at hstep
    · next request cacheScope load originalUrl raised hflow =>
      cases hstep
      have hok := h.flows flow
      rw [hflow] at hok
      exact h.setFlow hok
    · cases hstep
  | response flow id =>
    simp only [Cache.step] at hstep
    split at hstep
    · next request cacheScope load originalUrl response hflow hidle =>
      cases hstep
      have hbegun := (h.beginStore hidle (response.storeCall request cacheScope originalUrl)).flows flow
      change FlowOk py _ (s.flows flow) at hbegun
      rw [hflow] at hbegun
      obtain ⟨call, hmissed, hsame⟩ := hbegun
      refine (h.beginStore hidle _).setFlow ⟨call, _, hmissed, ?_, fun known ↦
        hsame.identity response⟩
      dsimp only [Cache.setCall]
      rw [Function.update_self]
      exact (StoreCall.store?_begin py bodyDigest hexdigest _).1
    · cases hstep

theorem frozen_start : Frozen py bodyDigest hexdigest {} where
  calls _ := trivial
  files _ _ hfiles := nomatch hfiles
  once _ _ _ _ _ hcall := nomatch hcall
  flows _ := trivial

end Steps

end HarnessTraining.Netcache
