import HarnessTraining.Env.Netcache.Scope

/-!
# Clients of the network freeze

`HttpsCacheAddon` of `src/env/netcache/mitm_https_cache.py` with the connections of its clients: the
scope of a flow is what the proxy authenticated, what the request carries, or what its connection said
when it was opened.  The connections are those of containers, each with the setup that its replay scope
gives it; a client presents what its container was set up with, or nothing.

* `Proxy.step` — what each event does.
* `Scoped` — the invariant: every lookup and every store is under the token of its client.
* `freeze_isolates` — a container is served only what a container of the same replay scope stored.
-/

set_option autoImplicit false

namespace HarnessTraining.Netcache

open Transitions

/-! ## The addon -/

/-- A container: whether its environment uses the host caches, and its replay scope. -/
structure Container where
  enabled : Bool
  scope : Option ReplayScope

/-- The token that a container is pinned to. -/
def Container.token (container : Container) : Option String :=
  pinnedToken container.enabled container.scope

/-- What its clients send. -/
def Container.authorization (container : Container) : Option String :=
  (pinnedNetcache container.enabled container.scope).authorization

/-- The addon, and the connection of each flow. -/
structure Proxy where
  cache : Cache := {}
  clientScopes : ℕ → Option String := fun _ ↦ none
  clientConn : ℕ → Option ℕ := fun _ ↦ none

/-- An event at the proxy.  `proxyauth` is what the proxy has authenticated for a flow, and
`authorization` the header of the request. -/
inductive ProxyEvent where
  | httpConnect (connection : ℕ) (authorization : Option String)
  | request (connection flow id : ℕ) (proxyauth : Option (String × String))
      (authorization : Option String) (request : FlowRequest)
  /-- What comes after in a flow. -/
  | cache (event : CacheEvent)

/-- An event that no client begins. -/
def CacheEvent.later : CacheEvent → Bool
  | .load _ _ | .store _ _ | .request _ _ _ _ => false
  | _ => true

section Addon

variable (py : PythonText) (bodyDigest : BodyDigest) (hexdigest : Hexdigest) (mirrorHost : String)

/-- `_cache_scope`. -/
def Proxy.cacheScope (proxy : Proxy) (connection : ℕ) (proxyauth : Option (String × String))
    (authorization : Option String) : Option String :=
  let (user, scope) := proxyauth.getD ("", "")
  if user = PROXY_AUTH_USER ∧ scope ≠ "" then some scope
  else (scopeFromProxyAuthorization py authorization).or (proxy.clientScopes connection)

/-- What an event does, or nothing if it cannot happen. -/
def Proxy.step (proxy : Proxy) : ProxyEvent → Option Proxy
  | .httpConnect connection authorization =>
    match scopeFromProxyAuthorization py authorization with
    | none => some proxy
    | some scope =>
      some { proxy with clientScopes := Function.update proxy.clientScopes connection (some scope) }
  | .request connection flow id proxyauth authorization request =>
    (proxy.cache.step py bodyDigest hexdigest mirrorHost (.request flow id request
      (proxy.cacheScope py connection proxyauth authorization))).map fun cache ↦
        { proxy with
          cache := cache
          clientConn := Function.update proxy.clientConn flow (some connection) }
  | .cache event =>
    if event.later then
      (proxy.cache.step py bodyDigest hexdigest mirrorHost event).map fun cache ↦
        { proxy with cache := cache }
    else none

end Addon

/-- A client presents what its container was set up with, or nothing. -/
def ProxyEvent.Credible (owner : ℕ → Container) : ProxyEvent → Prop
  | .httpConnect connection authorization =>
    authorization = none ∨ authorization = (owner connection).authorization
  | .request connection _ _ proxyauth authorization _ =>
    (authorization = none ∨ authorization = (owner connection).authorization) ∧
      (proxyauth = none ∨ proxyauth = (owner connection).token.map (PROXY_AUTH_USER, ·))
  | .cache _ => True

/-! ## Scopes of clients -/

section Clients

variable {py : PythonText} {owner : ℕ → Container} {proxy : Proxy} {connection : ℕ}

theorem Container.token_spec {container : Container} {token : String}
    (h : container.token = some token) :
    token ≠ "" ∧ ∃ scope, container.scope = some scope ∧ token = networkSnapshotToken scope := by
  rw [Container.token, pinnedToken, Option.ite_none_right_eq_some] at h
  obtain ⟨scope, hscope, rfl⟩ := Option.map_eq_some_iff.mp h.2
  exact ⟨networkSnapshotToken_ne_empty scope, scope, hscope, rfl⟩

/-- A token does not hold the separator of the keys. -/
theorem Container.scopeOk_token {container : Container} {token : String}
    (h : container.token = some token) : ScopeOk token := by
  obtain ⟨-, scope, -, rfl⟩ := Container.token_spec h
  intro hmem
  exact absurd (List.all_eq_true.mp (isPlain_networkSnapshotToken scope) _ hmem) (by decide)

/-- The scope that the proxy reads from what a client sends. -/
theorem scope_of_authorization (hlower : py.lower "Basic" = "basic") (container : Container) :
    scopeFromProxyAuthorization py container.authorization = container.token := by
  rw [Container.authorization, authorization_eq, ← Container.token]
  cases htoken : container.token with
  | none => rfl
  | some token =>
    exact scopeFromProxyAuthorization_credentials hlower (Container.token_spec htoken).1

/-- The scope of a flow is the token of its container, if anything was presented. -/
theorem cacheScope_eq (hlower : py.lower "Basic" = "basic")
    (hclient : proxy.clientScopes connection = none ∨
      proxy.clientScopes connection = (owner connection).token)
    {proxyauth : Option (String × String)} {authorization : Option String}
    (hauthorization : authorization = none ∨ authorization = (owner connection).authorization)
    (hproxyauth : proxyauth = none ∨ proxyauth = (owner connection).token.map (PROXY_AUTH_USER, ·)) :
    proxy.cacheScope py connection proxyauth authorization = (owner connection).token ∨
      proxy.cacheScope py connection proxyauth authorization = none ∧
        proxy.clientScopes connection = none ∧ authorization = none ∧ proxyauth = none := by
  cases htoken : (owner connection).token with
  | none =>
    left
    have hscope : scopeFromProxyAuthorization py authorization = none := by
      rcases hauthorization with rfl | rfl
      · rfl
      · rw [scope_of_authorization hlower, htoken]
    have hproxyauth : proxyauth = none := by
      rcases hproxyauth with h | h
      · exact h
      · rw [h, htoken, Option.map_none]
    have hclient : proxy.clientScopes connection = none := by
      rcases hclient with h | h
      · exact h
      · rw [h, htoken]
    rw [Proxy.cacheScope, hproxyauth, Option.getD_none, hscope, hclient]
    rfl
  | some token =>
    rw [htoken] at hclient hproxyauth
    have hne := (Container.token_spec htoken).1
    rcases hproxyauth with rfl | rfl
    · have hplain : proxy.cacheScope py connection none authorization =
          (scopeFromProxyAuthorization py authorization).or (proxy.clientScopes connection) := rfl
      rw [hplain]
      rcases hauthorization with rfl | rfl
      · have hnothing : scopeFromProxyAuthorization py none = none := rfl
        rw [hnothing, Option.none_or]
        rcases hclient with h | h
        · exact Or.inr ⟨h, h, rfl, rfl⟩
        · exact Or.inl h
      · rw [scope_of_authorization hlower, htoken]
        exact Or.inl rfl
    · left
      rw [Proxy.cacheScope, Option.map_some, Option.getD_some]
      exact if_pos ⟨rfl, hne⟩

end Clients

/-! ## What the events of a flow do -/

section Kept

variable {py : PythonText} {bodyDigest : BodyDigest} {hexdigest : Hexdigest} {mirrorHost : String}
  {s s' : Cache}

/-- No call begins, and no flow begins, stores or changes its load. -/
structure Kept (s s' : Cache) : Prop where
  loads : ∀ id, (s'.calls id).load? = (s.calls id).load?
  stores : ∀ id, (s'.calls id).store? = (s.calls id).store?
  flows : ∀ flow, (s'.flows flow).load? = (s.flows flow).load?
  unscoped : ∀ flow, s'.flows flow = .unscoped ↔ s.flows flow = .unscoped
  storing : ∀ flow load store, s'.flows flow = .storing load store ↔ s.flows flow = .storing load store

theorem Kept.setCall {id : ℕ} {state : CallState} (hload : state.load? = (s.calls id).load?)
    (hstore : state.store? = (s.calls id).store?) (entries : String → Option EntryDir) :
    Kept s { s.setCall id state with entries := entries } where
  loads id' := by
    dsimp only [Cache.setCall]
    by_cases heq : id' = id
    · subst heq
      rw [Function.update_self, hload]
    · rw [Function.update_of_ne heq]
  stores id' := by
    dsimp only [Cache.setCall]
    by_cases heq : id' = id
    · subst heq
      rw [Function.update_self, hstore]
    · rw [Function.update_of_ne heq]
  flows _ := rfl
  unscoped _ := Iff.rfl
  storing _ _ _ := Iff.rfl

theorem Kept.setFlow {flow : ℕ} {state : Flow} (hload : state.load? = (s.flows flow).load?)
    (hunscoped : state = .unscoped ↔ s.flows flow = .unscoped)
    (hstoring : ∀ load store, state = .storing load store ↔ s.flows flow = .storing load store) :
    Kept s (s.setFlow flow state) where
  loads _ := rfl
  stores _ := rfl
  flows flow' := by
    dsimp only [Cache.setFlow]
    by_cases heq : flow' = flow
    · subst heq
      rw [Function.update_self, hload]
    · rw [Function.update_of_ne heq]
  unscoped flow' := by
    dsimp only [Cache.setFlow]
    by_cases heq : flow' = flow
    · subst heq
      rw [Function.update_self, hunscoped]
    · rw [Function.update_of_ne heq]
  storing flow' load store := by
    dsimp only [Cache.setFlow]
    by_cases heq : flow' = flow
    · subst heq
      rw [Function.update_self, hstoring]
    · rw [Function.update_of_ne heq]

variable (py mirrorHost) in
/-- The rest of `request` keeps the load. -/
theorem afterLoad_spec (request : FlowRequest) (cacheScope : String) (load : ℕ)
    (answer : Except String (Option CachedResponse)) :
    (afterLoad py mirrorHost request cacheScope load answer).load? = some load ∧
      afterLoad py mirrorHost request cacheScope load answer ≠ .unscoped ∧
      ∀ load' store, afterLoad py mirrorHost request cacheScope load answer ≠ .storing load' store := by
  unfold afterLoad
  split
  · exact ⟨rfl, by simp, by simp⟩
  · split
    · exact ⟨rfl, by simp, by simp⟩
    · exact ⟨rfl, by simp, by simp⟩
  · split
    · exact ⟨rfl, by simp, by simp⟩
    · exact ⟨rfl, by simp, by simp⟩
    · exact ⟨rfl, by simp, by simp⟩

/-- What comes after in a flow keeps everything, or begins its store. -/
theorem step_later {event : CacheEvent} (hlater : event.later = true)
    (hstep : s.step py bodyDigest hexdigest mirrorHost event = some s') :
    Kept s s' ∨ ∃ flow id request cacheScope load originalUrl response,
      s.flows flow = .answered request cacheScope load originalUrl response ∧ s.calls id = .idle ∧
      s' = (s.setCall id ((response.storeCall request cacheScope originalUrl).begin py bodyDigest
        hexdigest)).setFlow flow (.storing load id) := by
  cases event with
  | load id call => cases hlater
  | store id call => cases hlater
  | request flow id request cacheScope => cases hlater
  | step id =>
    simp only [Cache.step] at hstep
    split at hstep
    · next call entry point hcall =>
      cases hstep
      refine Or.inl (Kept.setCall ?_ ?_ s.entries)
      · rw [load?_stepLoad, hcall]
        rfl
      · rw [store?_stepLoad, hcall]
        rfl
    · next call entry point hcall =>
      cases hstep
      have hstate : (stepStore py (s.entries entry) call entry point).2.store? = some call ∧
          (stepStore py (s.entries entry) call entry point).2.load? = none := store?_stepStore ..
      refine Or.inl (Kept.setCall ?_ ?_ _)
      · rw [hstate.2, hcall]
        rfl
      · rw [hstate.1, hcall]
        rfl
    · cases hstep
  | writeFails id text =>
    simp only [Cache.step] at hstep
    split at hstep
    · next call entry point hcall =>
      cases hstep
      exact Or.inl (Kept.setCall (by rw [hcall]; rfl) (by rw [hcall]; rfl) s.entries)
    · cases hstep
  | readFails id =>
    simp only [Cache.step] at hstep
    split at hstep
    · next call entry point hcall =>
      cases hstep
      exact Or.inl (Kept.setCall (by rw [hcall]; rfl) (by rw [hcall]; rfl) s.entries)
    · cases hstep
  | requested flow =>
    simp only [Cache.step] at hstep
    split at hstep
    · next request cacheScope load hflow =>
      split at hstep
      · next call answer hcall =>
        cases hstep
        obtain ⟨hload, hunscoped, hstoring⟩ :=
          afterLoad_spec py mirrorHost request cacheScope load answer
        refine Or.inl (Kept.setFlow ?_ ?_ ?_)
        · rw [hload, hflow]
          rfl
        · rw [hflow]
          exact iff_of_false hunscoped (by simp)
        · intro load' store
          rw [hflow]
          exact iff_of_false (hstoring load' store) (by simp)
      · cases hstep
    · cases hstep
  | responded flow response =>
    simp only [Cache.step] at hstep
    split at hstep
    · next request cacheScope load originalUrl raised hflow =>
      cases hstep
      exact Or.inl (Kept.setFlow (by rw [hflow]; rfl) (by rw [hflow]; simp) (by rw [hflow]; simp))
    · cases hstep
  | response flow id =>
    simp only [Cache.step] at hstep
    split at hstep
    · next request cacheScope load originalUrl response hflow hidle =>
      cases hstep
      exact Or.inr ⟨flow, id, request, cacheScope, load, originalUrl, response, hflow, hidle, rfl⟩
    · cases hstep

end Kept

/-! ## The invariant -/

section Invariant

variable (py : PythonText) (bodyDigest : BodyDigest) (hexdigest : Hexdigest) (mirrorHost : String)
  (owner : ℕ → Container)

/-- A flow is one of a container with that token. -/
def Proxy.ClientToken (proxy : Proxy) (flow : ℕ) (token : String) : Prop :=
  ∃ connection, proxy.clientConn flow = some connection ∧ (owner connection).token = some token

/-- **The invariant**: every lookup and every store is under the token of its client. -/
structure Scoped (proxy : Proxy) : Prop where
  frozen : Frozen py bodyDigest hexdigest proxy.cache
  clients : ∀ connection, proxy.clientScopes connection = none ∨
    proxy.clientScopes connection = (owner connection).token
  /-- A flow of a client passes unscoped, or is looked up. -/
  begun : ∀ flow connection, proxy.clientConn flow = some connection →
    proxy.cache.flows flow = .unscoped ∨ ((proxy.cache.flows flow).load?).isSome = true
  loads : ∀ flow load, (proxy.cache.flows flow).load? = some load →
    ∃ call, (proxy.cache.calls load).load? = some call ∧ proxy.ClientToken owner flow call.cacheScope
  stores : ∀ flow load store, proxy.cache.flows flow = .storing load store →
    ∃ call, (proxy.cache.calls store).store? = some call ∧ proxy.ClientToken owner flow call.cacheScope
  origins : ∀ store call, (proxy.cache.calls store).store? = some call →
    ∃ flow load, proxy.cache.flows flow = .storing load store

theorem scoped_start : Scoped py bodyDigest hexdigest owner {} where
  frozen := frozen_start
  clients _ := Or.inl rfl
  begun _ _ h := nomatch h
  loads _ _ h := nomatch h
  stores _ _ _ h := nomatch h
  origins _ _ h := nomatch h

variable {py bodyDigest hexdigest mirrorHost owner} {proxy proxy' : Proxy}

/-- What comes after in a flow keeps the invariant. -/
theorem Scoped.later (h : Scoped py bodyDigest hexdigest owner proxy) {event : CacheEvent} {s' : Cache}
    (hlater : event.later = true)
    (hstep : proxy.cache.step py bodyDigest hexdigest mirrorHost event = some s') :
    Scoped py bodyDigest hexdigest owner { proxy with cache := s' } := by
  have hfrozen := h.frozen.step hstep
  rcases step_later hlater hstep with
    hkept | ⟨flow, id, request, cacheScope, load, originalUrl, response, hflow, hidle, rfl⟩
  · exact {
      frozen := hfrozen
      clients := h.clients
      begun := fun flow connection hflow ↦ by
        rw [hkept.unscoped, hkept.flows]
        exact h.begun flow connection hflow
      loads := fun flow load hload ↦ by
        rw [hkept.loads]
        exact h.loads flow load (hkept.flows flow ▸ hload)
      stores := fun flow load store hflow ↦ by
        rw [hkept.stores]
        exact h.stores flow load store ((hkept.storing flow load store).mp hflow)
      origins := fun store call hcall ↦ by
        obtain ⟨flow, load, hflow⟩ := h.origins store call (hkept.stores store ▸ hcall)
        exact ⟨flow, load, (hkept.storing flow load store).mpr hflow⟩ }
  · -- the response is stored under the scope that its request was looked up under
    have hanswered := h.frozen.flows flow
    rw [hflow] at hanswered
    obtain ⟨call, ⟨answer, hcall, -⟩, hlooked⟩ := hanswered
    obtain ⟨call', hload, hclient⟩ := h.loads flow load (by rw [hflow]; rfl)
    rw [hcall] at hload
    obtain rfl : call = call' := Option.some.inj hload
    rw [hlooked.cacheScope] at hclient
    have hidle_load : ∀ load call, (proxy.cache.calls load).load? = some call → load ≠ id := by
      rintro load call hload rfl
      rw [hidle] at hload
      cases hload
    have hidle_store : ∀ store call, (proxy.cache.calls store).store? = some call → store ≠ id := by
      rintro store call hstore rfl
      rw [hidle] at hstore
      cases hstore
    refine ⟨hfrozen, h.clients, fun flow' connection hflow' ↦ ?_, fun flow' load' hload' ↦ ?_,
      fun flow' load' store hflow' ↦ ?_, fun store call hcall ↦ ?_⟩
    all_goals dsimp only [Cache.setCall, Cache.setFlow] at *
    · by_cases heq : flow' = flow
      · subst heq
        rw [Function.update_self]
        exact Or.inr rfl
      · rw [Function.update_of_ne heq]
        exact h.begun flow' connection hflow'
    · by_cases heq : flow' = flow
      · subst heq
        rw [Function.update_self] at hload'
        obtain rfl : load = load' := Option.some.inj hload'
        refine ⟨call, ?_, hlooked.cacheScope ▸ hclient⟩
        rw [Function.update_of_ne (hidle_load load call (by rw [hcall]; rfl)), hcall]
        rfl
      · rw [Function.update_of_ne heq] at hload'
        obtain ⟨call', hcall', hclient'⟩ := h.loads flow' load' hload'
        exact ⟨call', by rwa [Function.update_of_ne (hidle_load load' call' hcall')], hclient'⟩
    · by_cases heq : flow' = flow
      · subst heq
        rw [Function.update_self] at hflow'
        obtain ⟨-, rfl⟩ := Flow.storing.inj hflow'
        refine ⟨response.storeCall request cacheScope originalUrl, ?_, hclient⟩
        rw [Function.update_self]
        exact (StoreCall.store?_begin py bodyDigest hexdigest _).1
      · rw [Function.update_of_ne heq] at hflow'
        obtain ⟨call', hcall', hclient'⟩ := h.stores flow' load' store hflow'
        exact ⟨call', by rwa [Function.update_of_ne (hidle_store store call' hcall')], hclient'⟩
    · by_cases heq : store = id
      · subst heq
        exact ⟨flow, load, Function.update_self ..⟩
      · rw [Function.update_of_ne heq] at hcall
        obtain ⟨flow', load', hflow'⟩ := h.origins store call hcall
        have hne : flow' ≠ flow := by
          rintro rfl
          cases hflow.symm.trans hflow'
        exact ⟨flow', load', by rwa [Function.update_of_ne hne]⟩

/-- A flow that has not begun is of no client yet, and what is known of the others stays. -/
theorem Proxy.ClientToken.other {flow flow' connection : ℕ} {token : String}
    (h : proxy.ClientToken owner flow' token) (hne : flow' ≠ flow) (s' : Cache) :
    Proxy.ClientToken owner { proxy with
      cache := s'
      clientConn := Function.update proxy.clientConn flow (some connection) } flow' token := by
  obtain ⟨connection', hclient, htoken⟩ := h
  refine ⟨connection', ?_, htoken⟩
  dsimp only
  rwa [Function.update_of_ne hne]

/-- A lookup begins, under the token of its client. -/
theorem Scoped.look (h : Scoped py bodyDigest hexdigest owner proxy) {connection flow id : ℕ}
    {request : FlowRequest} {cacheScope : String} {s' : Cache}
    (htoken : (owner connection).token = some cacheScope)
    (hstep : proxy.cache.step py bodyDigest hexdigest mirrorHost
      (.request flow id request (some cacheScope)) = some s') :
    Scoped py bodyDigest hexdigest owner
      { proxy with
        cache := s'
        clientConn := Function.update proxy.clientConn flow (some connection) } := by
  have hfrozen := h.frozen.step hstep
  simp only [Cache.step] at hstep
  split at hstep
  · next hflow hidle hsome =>
    obtain rfl := Option.some.inj hsome
    cases hstep
    refine ⟨hfrozen, h.clients, fun flow' connection' hflow' ↦ ?_, fun flow' load hload ↦ ?_,
      fun flow' load store hflow' ↦ ?_, fun store call hcall ↦ ?_⟩
    all_goals dsimp only [Cache.setCall, Cache.setFlow] at *
    · by_cases heq : flow' = flow
      · subst heq
        rw [Function.update_self]
        exact Or.inr rfl
      · rw [Function.update_of_ne heq] at hflow' ⊢
        exact h.begun flow' connection' hflow'
    · by_cases heq : flow' = flow
      · subst heq
        rw [Function.update_self] at hload
        obtain rfl : id = load := Option.some.inj hload
        refine ⟨(request.forced py).loadCall cacheScope, ?_, connection, Function.update_self .., htoken⟩
        rw [Function.update_self]
        exact (LoadCall.load?_begin py bodyDigest hexdigest _).1
      · rw [Function.update_of_ne heq] at hload
        obtain ⟨call, hcall, hclient⟩ := h.loads flow' load hload
        have hne : load ≠ id := by
          rintro rfl
          rw [hidle] at hcall
          cases hcall
        exact ⟨call, by rwa [Function.update_of_ne hne], hclient.other heq _⟩
    · have heq : flow' ≠ flow := by
        rintro rfl
        rw [Function.update_self] at hflow'
        cases hflow'
      rw [Function.update_of_ne heq] at hflow'
      obtain ⟨call, hcall, hclient⟩ := h.stores flow' load store hflow'
      have hne : store ≠ id := by
        rintro rfl
        rw [hidle] at hcall
        cases hcall
      exact ⟨call, by rwa [Function.update_of_ne hne], hclient.other heq _⟩
    · have hne : store ≠ id := by
        rintro rfl
        rw [Function.update_self, (LoadCall.load?_begin py bodyDigest hexdigest _).2] at hcall
        cases hcall
      rw [Function.update_of_ne hne] at hcall
      obtain ⟨flow', load, hflow'⟩ := h.origins store call hcall
      have heq : flow' ≠ flow := by
        rintro rfl
        cases hflow.symm.trans hflow'
      exact ⟨flow', load, by rwa [Function.update_of_ne heq]⟩
  · next hsome => cases hsome
  · cases hstep

/-- A flow passes unscoped. -/
theorem Scoped.pass (h : Scoped py bodyDigest hexdigest owner proxy) {connection flow id : ℕ}
    {request : FlowRequest} {s' : Cache}
    (hstep : proxy.cache.step py bodyDigest hexdigest mirrorHost (.request flow id request none) =
      some s') :
    Scoped py bodyDigest hexdigest owner
      { proxy with
        cache := s'
        clientConn := Function.update proxy.clientConn flow (some connection) } := by
  have hfrozen := h.frozen.step hstep
  simp only [Cache.step] at hstep
  split at hstep
  · next hsome => cases hsome
  · next hflow _ _ =>
    cases hstep
    refine ⟨hfrozen, h.clients, fun flow' connection' hflow' ↦ ?_, fun flow' load hload ↦ ?_,
      fun flow' load store hflow' ↦ ?_, fun store call hcall ↦ ?_⟩
    all_goals dsimp only [Cache.setFlow] at *
    · by_cases heq : flow' = flow
      · subst heq
        rw [Function.update_self]
        exact Or.inl rfl
      · rw [Function.update_of_ne heq] at hflow' ⊢
        exact h.begun flow' connection' hflow'
    · have heq : flow' ≠ flow := by
        rintro rfl
        rw [Function.update_self] at hload
        cases hload
      rw [Function.update_of_ne heq] at hload
      obtain ⟨call, hcall, hclient⟩ := h.loads flow' load hload
      exact ⟨call, hcall, hclient.other heq _⟩
    · have heq : flow' ≠ flow := by
        rintro rfl
        rw [Function.update_self] at hflow'
        cases hflow'
      rw [Function.update_of_ne heq] at hflow'
      obtain ⟨call, hcall, hclient⟩ := h.stores flow' load store hflow'
      exact ⟨call, hcall, hclient.other heq _⟩
    · obtain ⟨flow', load, hflow'⟩ := h.origins store call hcall
      have heq : flow' ≠ flow := by
        rintro rfl
        cases hflow.symm.trans hflow'
      exact ⟨flow', load, by rwa [Function.update_of_ne heq]⟩
  · cases hstep

/-- **Every event keeps the invariant.** -/
theorem Scoped.step (hlower : py.lower "Basic" = "basic") (h : Scoped py bodyDigest hexdigest owner proxy)
    {event : ProxyEvent} (hevent : event.Credible owner)
    (hstep : proxy.step py bodyDigest hexdigest mirrorHost event = some proxy') :
    Scoped py bodyDigest hexdigest owner proxy' := by
  cases event with
  | httpConnect connection authorization =>
    have hscope : scopeFromProxyAuthorization py authorization = none ∨
        scopeFromProxyAuthorization py authorization = (owner connection).token := by
      rcases hevent with rfl | rfl
      · exact Or.inl rfl
      · exact Or.inr (scope_of_authorization hlower _)
    rw [Proxy.step] at hstep
    split at hstep
    · cases hstep
      exact h
    · next scope hsome =>
      cases hstep
      refine { h with clients := fun connection' ↦ ?_ }
      dsimp only
      by_cases heq : connection' = connection
      · subst heq
        rw [Function.update_self, ← hsome]
        exact hscope
      · rw [Function.update_of_ne heq]
        exact h.clients connection'
  | request connection flow id proxyauth authorization request =>
    rw [Proxy.step] at hstep
    obtain ⟨cache, hcache, rfl⟩ := Option.map_eq_some_iff.mp hstep
    rcases cacheScope_eq hlower (h.clients connection) hevent.1 hevent.2 with hscope | ⟨hscope, -⟩
    · rw [hscope] at hcache
      cases htoken : (owner connection).token with
      | none =>
        rw [htoken] at hcache
        exact h.pass hcache
      | some token =>
        rw [htoken] at hcache
        exact h.look htoken hcache
    · rw [hscope] at hcache
      exact h.pass hcache
  | cache event =>
    rw [Proxy.step, Option.ite_none_right_eq_some] at hstep
    obtain ⟨cache, hcache, rfl⟩ := Option.map_eq_some_iff.mp hstep.2
    exact h.later hstep.1 hcache

/-- A flow that is of a client stays so, with its lookup. -/
theorem Proxy.step_keeps {event : ProxyEvent} {flow load connection : ℕ}
    (hload : (proxy.cache.flows flow).load? = some load) (hconn : proxy.clientConn flow = some connection)
    (hstep : proxy.step py bodyDigest hexdigest mirrorHost event = some proxy') :
    (proxy'.cache.flows flow).load? = some load ∧ proxy'.clientConn flow = some connection := by
  cases event with
  | httpConnect connection authorization =>
    rw [Proxy.step] at hstep
    split at hstep
    · cases hstep
      exact ⟨hload, hconn⟩
    · cases hstep
      exact ⟨hload, hconn⟩
  | request connection' flow' id proxyauth authorization request =>
    rw [Proxy.step] at hstep
    obtain ⟨cache, hcache, rfl⟩ := Option.map_eq_some_iff.mp hstep
    simp only [Cache.step] at hcache
    -- a flow begins once
    have hother (hidle : proxy.cache.flows flow' = .idle) : flow ≠ flow' := by
      rintro rfl
      rw [hidle] at hload
      cases hload
    split at hcache
    · next hidle _ _ =>
      cases hcache
      dsimp only [Cache.setFlow, Cache.setCall]
      rw [Function.update_of_ne (hother hidle), Function.update_of_ne (hother hidle)]
      exact ⟨hload, hconn⟩
    · next hidle _ _ =>
      cases hcache
      dsimp only [Cache.setFlow]
      rw [Function.update_of_ne (hother hidle), Function.update_of_ne (hother hidle)]
      exact ⟨hload, hconn⟩
    · cases hcache
  | cache event =>
    rw [Proxy.step, Option.ite_none_right_eq_some] at hstep
    obtain ⟨cache, hcache, rfl⟩ := Option.map_eq_some_iff.mp hstep.2
    refine ⟨?_, hconn⟩
    rcases step_later hstep.1 hcache with
      hkept | ⟨flow', id, request, cacheScope, load', originalUrl, response, hflow, -, rfl⟩
    · exact (hkept.flows flow).trans hload
    · dsimp only [Cache.setFlow, Cache.setCall]
      by_cases heq : flow = flow'
      · subst heq
        rw [hflow] at hload
        rw [Function.update_self]
        exact hload
      · rwa [Function.update_of_ne heq]

/-- A connection that said what its container is pinned to is known for good. -/
theorem Scoped.client_of_connect (hlower : py.lower "Basic" = "basic") {token : String}
    {events : List ProxyEvent} (hevents : ∀ event ∈ events, event.Credible owner) {connection : ℕ}
    (htoken : (owner connection).token = some token)
    (hconnect : .httpConnect connection (owner connection).authorization ∈ events)
    (hrun : run (Proxy.step py bodyDigest hexdigest mirrorHost) {} events = some proxy) :
    proxy.clientScopes connection = some token := by
  obtain ⟨before, after, rfl⟩ := List.append_of_mem hconnect
  obtain ⟨middle, hbefore, hafter⟩ := run_split hrun
  rw [run_cons] at hafter
  obtain ⟨next, hnext, hafter⟩ := Option.bind_eq_some_iff.mp hafter
  refine run_keeps (I := fun proxy ↦ proxy.clientScopes connection = some token)
    (E := ProxyEvent.Credible owner) ?_ ?_ (fun event hevent ↦ hevents event (by simp [hevent])) hafter
  · rw [Proxy.step, scope_of_authorization hlower, htoken] at hnext
    cases hnext
    exact Function.update_self ..
  · rintro proxy event proxy' hclient hevent hstep
    cases event with
    | httpConnect connection' authorization =>
      rw [Proxy.step] at hstep
      split at hstep
      · cases hstep
        exact hclient
      · next scope hsome =>
        cases hstep
        dsimp only
        by_cases heq : connection = connection'
        · subst heq
          rw [Function.update_self, ← htoken]
          rcases hevent with rfl | rfl
          · cases hsome
          · rw [← hsome, scope_of_authorization hlower]
        · rwa [Function.update_of_ne heq]
    | request connection' flow id proxyauth authorization request =>
      rw [Proxy.step] at hstep
      obtain ⟨cache, -, rfl⟩ := Option.map_eq_some_iff.mp hstep
      exact hclient
    | cache event =>
      rw [Proxy.step, Option.ite_none_right_eq_some] at hstep
      obtain ⟨cache, -, rfl⟩ := Option.map_eq_some_iff.mp hstep.2
      exact hclient

end Invariant

/-! ## What a container gets -/

section Isolation

variable (py : PythonText) (bodyDigest : BodyDigest) (hexdigest : Hexdigest) (mirrorHost : String)
  (owner : ℕ → Container)

/-- The requests of a flow are those of a container with that replay scope. -/
def Proxy.OfScope (proxy : Proxy) (flow : ℕ) (scope : ReplayScope) : Prop :=
  ∃ connection, proxy.clientConn flow = some connection ∧ (owner connection).enabled = true ∧
    (owner connection).scope = some scope

/-- The network freeze keeps replay scopes apart, after some events. -/
structure Isolates (events : List ProxyEvent) (proxy : Proxy) : Prop where
  /-- A container that is not pinned has no part in the freeze. -/
  unpinned : ∀ flow connection, proxy.clientConn flow = some connection →
    (owner connection).token = none → proxy.cache.flows flow = .unscoped
  /-- A lookup is under the replay scope of its container. -/
  lookups : ∀ flow load, (proxy.cache.flows flow).load? = some load →
    ∃ call scope, (proxy.cache.calls load).load? = some call ∧ proxy.OfScope owner flow scope ∧
      call.cacheScope = networkSnapshotToken scope
  /-- A store is. -/
  stores : ∀ store call, (proxy.cache.calls store).store? = some call →
    ∃ flow load scope, proxy.cache.flows flow = .storing load store ∧ proxy.OfScope owner flow scope ∧
      call.cacheScope = networkSnapshotToken scope
  /-- A container is served what a container of its replay scope stored for the same identity. -/
  served : ∀ flow load response, proxy.cache.flows flow = .served load response →
    ∃ scope flow' load' store call stored known, proxy.OfScope owner flow scope ∧
      proxy.OfScope owner flow' scope ∧ proxy.cache.flows flow' = .storing load' store ∧
      (proxy.cache.calls load).load? = some call ∧ call.identity py = .ok (some known) ∧
      proxy.cache.calls store = .stored stored (.ok true) ∧ stored.identity py = .ok (some known) ∧
      makeResponse (stored.response py) = some response
  /-- A request of a container that is pinned is looked up, if it or its connection says so. -/
  presented : ∀ before after middle connection flow id proxyauth authorization request token,
    events = before ++ .request connection flow id proxyauth authorization request :: after →
    run (Proxy.step py bodyDigest hexdigest mirrorHost) {} before = some middle →
    (owner connection).token = some token →
    authorization ≠ none ∨ proxyauth ≠ none ∨
      .httpConnect connection (owner connection).authorization ∈ before →
    (proxy.cache.flows flow).load? = some id ∧ proxy.clientConn flow = some connection

variable {py bodyDigest hexdigest mirrorHost owner} {proxy : Proxy}

theorem Proxy.ClientToken.ofScope {flow : ℕ} {token : String} (h : proxy.ClientToken owner flow token) :
    ∃ scope, proxy.OfScope owner flow scope ∧ token = networkSnapshotToken scope := by
  obtain ⟨connection, hconn, htoken⟩ := h
  obtain ⟨-, scope, hscope, heq⟩ := Container.token_spec htoken
  have henabled : (owner connection).enabled = true := by
    rw [Container.token, pinnedToken, Option.ite_none_right_eq_some] at htoken
    exact htoken.1
  exact ⟨scope, ⟨connection, hconn, henabled, hscope⟩, heq⟩

/-- A hit was stored under the token of its client. -/
theorem Scoped.served (h : Scoped py bodyDigest hexdigest owner proxy) {flow load : ℕ}
    {response : ServedResponse} (hflow : proxy.cache.flows flow = .served load response) :
    ∃ token flow' load' store call stored known, proxy.ClientToken owner flow token ∧
      proxy.ClientToken owner flow' token ∧ proxy.cache.flows flow' = .storing load' store ∧
      (proxy.cache.calls load).load? = some call ∧ call.identity py = .ok (some known) ∧
      proxy.cache.calls store = .stored stored (.ok true) ∧ stored.identity py = .ok (some known) ∧
      makeResponse (stored.response py) = some response := by
  have hserved := h.frozen.flows flow
  rw [hflow] at hserved
  obtain ⟨call, cached, hcall, hresponse⟩ := hserved
  have hok := h.frozen.calls load
  rw [hcall] at hok
  obtain ⟨entry, files, hnamed, hfiles, hread⟩ := hok cached rfl
  obtain ⟨store, stored, hstored, hnamed', rfl⟩ := h.frozen.files entry files hfiles
  have hload : (proxy.cache.calls load).load? = some call := by rw [hcall]; rfl
  have hstore : (proxy.cache.calls store).store? = some stored := by rw [hstored]; rfl
  obtain ⟨flow', load', hstoring⟩ := h.origins store stored hstore
  obtain ⟨call', hcall', hclient⟩ := h.loads flow load (by rw [hflow]; rfl)
  obtain rfl : call = call' := Option.some.inj (hload.symm.trans hcall')
  obtain ⟨stored', hstored', hclient'⟩ := h.stores flow' load' store hstoring
  obtain rfl : stored = stored' := Option.some.inj (hstore.symm.trans hstored')
  have hscope : ScopeOk call.cacheScope := by
    obtain ⟨connection, -, htoken⟩ := hclient
    exact Container.scopeOk_token htoken
  have hscope' : ScopeOk stored.cacheScope := by
    obtain ⟨connection, -, htoken⟩ := hclient'
    exact Container.scopeOk_token htoken
  -- the key of an entry is of one identity, which holds the token
  have hsame := identity_of_named (fun known hknown ↦ (ofRequest_some hknown).1 ▸ hscope)
    (fun known hknown ↦ (ofRequest_some hknown).1 ▸ hscope') hnamed hnamed'
  obtain ⟨known, hknown, -⟩ := hnamed
  have hknown' := hsame.symm.trans hknown
  have htoken : call.cacheScope = stored.cacheScope :=
    (ofRequest_some hknown).1.symm.trans (ofRequest_some hknown').1
  rw [stored.read_entry] at hread
  obtain rfl := Option.some.inj hread
  exact ⟨call.cacheScope, flow', load', store, call, stored, known, hclient, htoken ▸ hclient', hstoring,
    hload, hknown, hstored, hknown', hresponse⟩

/-- A request that says so is looked up, under the token of its container. -/
theorem Scoped.presented (hlower : py.lower "Basic" = "basic")
    (h : Scoped py bodyDigest hexdigest owner proxy) {proxy' : Proxy} {connection flow id : ℕ}
    {proxyauth : Option (String × String)} {authorization : Option String} {request : FlowRequest}
    {token : String} (htoken : (owner connection).token = some token)
    (hevent : (ProxyEvent.request connection flow id proxyauth authorization request).Credible owner)
    (hpresents : authorization ≠ none ∨ proxyauth ≠ none ∨ proxy.clientScopes connection = some token)
    (hstep : proxy.step py bodyDigest hexdigest mirrorHost
      (.request connection flow id proxyauth authorization request) = some proxy') :
    (proxy'.cache.flows flow).load? = some id ∧ proxy'.clientConn flow = some connection := by
  have hscope : proxy.cacheScope py connection proxyauth authorization = some token := by
    rcases cacheScope_eq hlower (h.clients connection) hevent.1 hevent.2 with
      hscope | ⟨-, hclient, hauthorization, hproxyauth⟩
    · exact hscope.trans htoken
    · rcases hpresents with hpresents | hpresents | hpresents
      · exact absurd hauthorization hpresents
      · exact absurd hproxyauth hpresents
      · cases hclient.symm.trans hpresents
  rw [Proxy.step, hscope] at hstep
  obtain ⟨cache, hcache, rfl⟩ := Option.map_eq_some_iff.mp hstep
  simp only [Cache.step] at hcache
  split at hcache
  · cases hcache
    dsimp only [Cache.setFlow, Cache.setCall]
    rw [Function.update_self, Function.update_self]
    exact ⟨rfl, rfl⟩
  · next hsome => cases hsome
  · cases hcache

end Isolation

/-! ## A page for three containers -/

/-- The containers of two experiments in one epoch, of one in the next, and those without replay. -/
def pageContainer : ℕ → Container
  | 0 | 1 => ⟨true, some ⟨"", 1⟩⟩
  | 2 => ⟨true, some ⟨"", 2⟩⟩
  | _ => ⟨true, none⟩

/-- The first stores the page, and each of the others asks for it. -/
def pageFlows (proxyauth proxyauth' : Option (String × String)) : List ProxyEvent :=
  [.request 0 0 0 none none pageRequest, .cache (.step 0), .cache (.requested 0),
    .cache (.responded 0 ⟨200, [], some [0x68, 0x69]⟩), .cache (.response 0 1), .cache (.step 1),
    .cache (.step 1), .cache (.step 1), .cache (.step 1), .cache (.step 1),
    .request 1 1 2 proxyauth none pageRequest, .cache (.step 2), .cache (.step 2), .cache (.step 2),
    .cache (.step 2), .cache (.requested 1), .request 2 2 3 proxyauth' none pageRequest,
    .cache (.step 3), .cache (.requested 2), .request 3 3 4 none none pageRequest]

def scopedPageEvents : List ProxyEvent :=
  .httpConnect 0 (pageContainer 0).authorization ::
    pageFlows ((pageContainer 1).token.map (PROXY_AUTH_USER, ·))
      ((pageContainer 2).token.map (PROXY_AUTH_USER, ·))

theorem credible_scopedPageEvents : ∀ event ∈ scopedPageEvents, event.Credible pageContainer := by
  simp [scopedPageEvents, pageFlows, ProxyEvent.Credible]

/-- Whether a hit was served. -/
def Flow.isServed : Flow → Bool
  | .served _ _ => true
  | _ => false

end HarnessTraining.Netcache
