import HarnessTraining.Env.Netcache.Identity

/-!
# The network freeze

The entries of `src/env/netcache/mitm_https_cache.py`, and the hooks of `HttpsCacheAddon`.  An entry is
a directory with two files; it is written beside its place and renamed.  Any number of calls read and
write the same entries, and each event is one operation of the file system, or one hook of a flow up
to the call it makes.  The scope of a flow is what `_cache_scope` found; the texts of headers are what
mitmproxy decodes from UTF-8.

* `stepLoad`, `stepStore` — one operation of a call.
* `afterLoad`, `FlowResponse.headed`, `FlowResponse.storeCall` — the hooks of a flow.
* `Cache.step` — what each event does.
-/

set_option autoImplicit false

namespace HarnessTraining.Netcache

structure CachedResponse where
  statusCode : ℤ
  headers : Headers
  body : Bytes

/-! ## Entries -/

/-- The files of an entry. -/
structure EntryDir where
  body : Option Bytes := none
  metaFile : Option String := none

/-- The text of `meta.json`. -/
def metaText (statusCode : ℤ) (headers : Headers) : String :=
  (Json.obj [("headers", .arr (headers.map fun header ↦ .arr [.str header.1, .str header.2])),
    ("status_code", .int statusCode)]).dumps

def readHeader : Json → Option (String × String)
  | .arr [.str name, .str value] => some (name, value)
  | _ => none

/-- What is read of `meta.json`; a text that does not fit is no response. -/
def readMeta (text : String) : Option (ℤ × Headers) :=
  match Json.loads text with
  | some (.obj members) =>
    match members.lookup "status_code", members.lookup "headers" with
    | some (.int statusCode), some (.arr headers) => (headers.mapM readHeader).map (statusCode, ·)
    | _, _ => none
  | _ => none

theorem mapM_readHeader : ∀ headers : Headers,
    (headers.map fun header ↦ Json.arr [.str header.1, .str header.2]).mapM readHeader = some headers
  | [] => rfl
  | header :: headers => by
    rw [List.map_cons, List.mapM_cons, mapM_readHeader headers]
    rfl

theorem readMeta_metaText (statusCode : ℤ) (headers : Headers) :
    readMeta (metaText statusCode headers) = some (statusCode, headers) := by
  have hdictionary : Json.Dictionary [("headers",
      .arr (headers.map fun header ↦ .arr [.str header.1, .str header.2])),
      ("status_code", .int statusCode)] := by
    refine ⟨by simp +decide only [List.pairwise_cons, List.forall_mem_cons, List.not_mem_nil,
      false_implies, implies_true, and_true], ?_⟩
    intro member hmember
    rcases List.mem_pair.mp hmember with rfl | rfl
    · refine Json.normal_arr fun item hitem ↦ ?_
      obtain ⟨header, -, rfl⟩ := List.mem_map.mp hitem
      rfl
    · rfl
  rw [readMeta, metaText, Json.loads_dumps, hdictionary.normal_obj]
  change (List.mapM readHeader _).map _ = _
  rw [mapM_readHeader]
  rfl

/-- What the files of a directory say. -/
def EntryDir.read (dir : EntryDir) : Option CachedResponse := do
  let (statusCode, headers) ← dir.metaFile.bind readMeta
  return ⟨statusCode, headers, ← dir.body⟩

/-! ## Calls -/

/-- A call of `load_cached_response`. -/
structure LoadCall where
  cacheScope : String
  method : String
  url : String
  requestHeaders : Headers
  requestBody : Bytes

/-- A call of `store_cacheable_response`. -/
structure StoreCall extends LoadCall where
  statusCode : ℤ
  headers : Headers
  body : Bytes

/-- The next operation of a load. -/
inductive LoadPoint where
  | metaExists
  | bodyExists
  | readMeta
  | readBody (statusCode : ℤ) (headers : Headers)

/-- The next operation of a store. -/
inductive StorePoint where
  | entryExists
  | makeDir
  /-- The directory beside the entry is written, then renamed. -/
  | write (dir : EntryDir)

inductive CallState where
  | idle
  | loading (call : LoadCall) (entry : String) (point : LoadPoint)
  | loaded (call : LoadCall) (answer : Except String (Option CachedResponse))
  | storing (call : StoreCall) (entry : String) (point : StorePoint)
  | stored (call : StoreCall) (answer : Except String Bool)

/-! ## Flows -/

/-- The request of a flow, as its hooks see it. -/
structure FlowRequest where
  method : String
  prettyUrl : String
  headers : Headers
  rawContent : Option Bytes

/-- A response from upstream. -/
structure FlowResponse where
  statusCode : ℤ
  headers : Headers
  rawContent : Option Bytes

/-- The response of a hit, with headers in bytes. -/
structure ServedResponse where
  statusCode : ℤ
  headers : List (Bytes × Bytes)
  body : Bytes
  deriving DecidableEq

/-- A flow with a scope; the others pass through. -/
inductive Flow where
  | idle
  | unscoped
  /-- `request` waits for its load. -/
  | looking (request : FlowRequest) (cacheScope : String) (load : ℕ)
  | served (load : ℕ) (response : ServedResponse)
  /-- It goes upstream, with the URL it was pinned from, or after `request` raised. -/
  | passed (request : FlowRequest) (cacheScope : String) (load : ℕ) (originalUrl : Option String)
      (raised : Option String)
  /-- Its response is there. -/
  | answered (request : FlowRequest) (cacheScope : String) (load : ℕ) (originalUrl : Option String)
      (response : FlowResponse)
  /-- `response` stores. -/
  | storing (load store : ℕ)

/-- One event. -/
inductive CacheEvent where
  | load (id : ℕ) (call : LoadCall)
  | store (id : ℕ) (call : StoreCall)
  /-- The next operation of a call. -/
  | step (id : ℕ)
  /-- The next operation of a store fails. -/
  | writeFails (id : ℕ) (text : String)
  /-- The next operation of a load fails. -/
  | readFails (id : ℕ)
  /-- `request`, up to its load. -/
  | request (flow id : ℕ) (request : FlowRequest) (cacheScope : Option String)
  /-- The rest of `request`. -/
  | requested (flow : ℕ)
  /-- `responseheaders`, and the body. -/
  | responded (flow : ℕ) (response : FlowResponse)
  /-- `response`. -/
  | response (flow id : ℕ)

structure Cache where
  entries : String → Option EntryDir := fun _ ↦ none
  calls : ℕ → CallState := fun _ ↦ .idle
  flows : ℕ → Flow := fun _ ↦ .idle

section Semantics

variable (py : PythonText) (bodyDigest : BodyDigest) (hexdigest : Hexdigest) (mirrorHost : String)

/-- The directory of a store, when it is complete. -/
def StoreCall.entry (call : StoreCall) : EntryDir where
  body := some call.body
  metaFile := some (metaText call.statusCode (cacheableHeaders py call.headers))

/-- `load_cached_response`, up to its first look at the files. -/
def LoadCall.begin (call : LoadCall) : CallState :=
  match cacheUrl py bodyDigest call.method call.url call.requestHeaders call.requestBody [] with
  | .error text => .loaded call (.error text)
  | .ok none => .loaded call (.ok none)
  | .ok (some url) =>
    .loading call (cacheEntryDir py hexdigest call.cacheScope call.method url) .metaExists

/-- `store_cacheable_response`, up to its first look at the files. -/
def StoreCall.begin (call : StoreCall) : CallState :=
  if call.statusCode ≠ 200 then .stored call (.ok false)
  else
    match cacheUrl py bodyDigest call.method call.url call.requestHeaders call.requestBody
        call.headers with
    | .error text => .stored call (.error text)
    | .ok none => .stored call (.ok false)
    | .ok (some url) =>
      .storing call (cacheEntryDir py hexdigest call.cacheScope call.method url) .entryExists

/-- One operation of a load. -/
def stepLoad (dir : Option EntryDir) (call : LoadCall) (entry : String) : LoadPoint → CallState
  | .metaExists =>
    if (dir.bind EntryDir.metaFile).isSome then .loading call entry .bodyExists
    else .loaded call (.ok none)
  | .bodyExists =>
    if (dir.bind EntryDir.body).isSome then .loading call entry .readMeta
    else .loaded call (.ok none)
  | .readMeta =>
    match (dir.bind EntryDir.metaFile).bind readMeta with
    | some (statusCode, headers) => .loading call entry (.readBody statusCode headers)
    | none => .loaded call (.ok none)
  | .readBody statusCode headers =>
    match dir.bind EntryDir.body with
    | some body => .loaded call (.ok (some ⟨statusCode, headers, body⟩))
    | none => .loaded call (.ok none)

/-- One operation of a store: what the entry is after it, and the call. -/
def stepStore (dir : Option EntryDir) (call : StoreCall) (entry : String) :
    StorePoint → Option EntryDir × CallState
  | .entryExists =>
    (dir, if dir.isSome then .stored call (.ok false) else .storing call entry .makeDir)
  | .makeDir => (dir, .storing call entry (.write {}))
  | .write ⟨none, metaFile⟩ => (dir, .storing call entry (.write ⟨some call.body, metaFile⟩))
  | .write ⟨some body, none⟩ =>
    (dir, .storing call entry (.write ⟨some body, (call.entry py).metaFile⟩))
  | .write made =>
    match dir with
    -- a directory is renamed over an empty one
    | none | some ⟨none, none⟩ => (some made, .stored call (.ok true))
    | some existing => (some existing, .stored call (.ok false))

/-- A hit, in the bytes of Latin-1. -/
def encodeLatin1 (text : String) : Option Bytes :=
  text.toList.mapM fun c ↦ if c.toNat < 256 then some c.toNat.toUInt8 else none

/-- The bytes that mitmproxy decodes a text from. -/
def encodeUtf8 (text : String) : Bytes := text.toList.flatMap String.utf8EncodeChar

def encodeHeader (header : String × String) : Option (Bytes × Bytes) := do
  return (← encodeLatin1 header.1, ← encodeLatin1 header.2)

/-- `http.Response.make`, of a hit. -/
def makeResponse (cached : CachedResponse) : Option ServedResponse := do
  return ⟨cached.statusCode, ← cached.headers.mapM encodeHeader, cached.body⟩

/-- The request after `Proxy-Authorization` is taken from it and its encoding is forced. -/
def FlowRequest.forced (request : FlowRequest) : FlowRequest :=
  { request with
    headers := (request.headers.filter fun header ↦
      py.lower header.1 ∉ ["proxy-authorization", "accept-encoding"]) ++
        [("Accept-Encoding", "identity")] }

def FlowRequest.loadCall (request : FlowRequest) (cacheScope : String) : LoadCall where
  cacheScope := cacheScope
  method := request.method
  url := request.prettyUrl
  requestHeaders := request.headers
  requestBody := request.rawContent.getD []

/-- The request that goes upstream instead. -/
def FlowRequest.pinned (request : FlowRequest) (url : String) : FlowRequest :=
  { request with
    prettyUrl := url
    headers := (request.headers.filter fun header ↦ py.lower header.1 ≠ "host") ++
      [("host", mirrorHost)] }

/-- The rest of `request`, after its load. -/
def afterLoad (request : FlowRequest) (cacheScope : String) (load : ℕ) :
    Except String (Option CachedResponse) → Flow
  | .error text => .passed request cacheScope load none (some text)
  | .ok (some cached) =>
    match makeResponse cached with
    | some response => .served load response
    | none => .passed request cacheScope load none (some "UnicodeEncodeError")
  | .ok none =>
    match pinnedUpstreamUrl py mirrorHost request.prettyUrl with
    | .error text => .passed request cacheScope load none (some text)
    | .ok none => .passed request cacheScope load none none
    | .ok (some url) =>
      .passed (request.pinned py mirrorHost url) cacheScope load (some request.prettyUrl) none

/-- `_cache_identity_url`. -/
def identityUrl (request : FlowRequest) (originalUrl : Option String) : String :=
  originalUrl.getD request.prettyUrl

/-- The response after `responseheaders`: a response that is streamed has no content. -/
def FlowResponse.headed (response : FlowResponse) (request : FlowRequest)
    (originalUrl : Option String) : FlowResponse :=
  let headers := response.headers.filter fun header ↦ py.lower header.1 ∉ volatileResponseHeaders
  match cacheUrl py bodyDigest request.method (identityUrl request originalUrl) request.headers
      (request.rawContent.getD []) headers with
  | .ok none => { response with headers := headers, rawContent := none }
  | _ => { response with headers := headers }

/-- The store of `response`. -/
def FlowResponse.storeCall (response : FlowResponse) (request : FlowRequest) (cacheScope : String)
    (originalUrl : Option String) : StoreCall where
  cacheScope := cacheScope
  method := request.method
  url := identityUrl request originalUrl
  requestHeaders := request.headers
  requestBody := request.rawContent.getD []
  statusCode := response.statusCode
  headers := response.headers
  body := response.rawContent.getD []

namespace Cache

def setCall (s : Cache) (id : ℕ) (state : CallState) : Cache :=
  { s with calls := Function.update s.calls id state }

def setFlow (s : Cache) (flow : ℕ) (state : Flow) : Cache :=
  { s with flows := Function.update s.flows flow state }

@[simp]
theorem calls_setCall (s : Cache) (id : ℕ) (state : CallState) : (s.setCall id state).calls id = state :=
  Function.update_self ..

@[simp]
theorem setCall_setCall (s : Cache) (id : ℕ) (state state' : CallState) :
    (s.setCall id state).setCall id state' = s.setCall id state' := by
  simp [setCall]

@[simp]
theorem entries_setCall (s : Cache) (id : ℕ) (state : CallState) :
    (s.setCall id state).entries = s.entries := rfl

@[simp]
theorem flows_setFlow (s : Cache) (flow : ℕ) (state : Flow) : (s.setFlow flow state).flows flow = state :=
  Function.update_self ..

/-- What an event does, or nothing if it cannot happen. -/
def step (s : Cache) : CacheEvent → Option Cache
  | .load id call =>
    match s.calls id with
    | .idle => some (s.setCall id (call.begin py bodyDigest hexdigest))
    | _ => none
  | .store id call =>
    match s.calls id with
    | .idle => some (s.setCall id (call.begin py bodyDigest hexdigest))
    | _ => none
  | .step id =>
    match s.calls id with
    | .loading call entry point => some (s.setCall id (stepLoad (s.entries entry) call entry point))
    | .storing call entry point =>
      let (dir, state) := stepStore py (s.entries entry) call entry point
      some { s.setCall id state with entries := Function.update s.entries entry dir }
    | _ => none
  | .writeFails id text =>
    match s.calls id with
    | .storing call _ _ => some (s.setCall id (.stored call (.error text)))
    | _ => none
  | .readFails id =>
    match s.calls id with
    | .loading call _ _ => some (s.setCall id (.loaded call (.ok none)))
    | _ => none
  | .request flow id request cacheScope =>
    match s.flows flow, s.calls id, cacheScope with
    | .idle, .idle, some cacheScope =>
      let request := request.forced py
      some ((s.setCall id ((request.loadCall cacheScope).begin py bodyDigest hexdigest)).setFlow flow
        (.looking request cacheScope id))
    | .idle, .idle, none => some (s.setFlow flow .unscoped)
    | _, _, _ => none
  | .requested flow =>
    match s.flows flow with
    | .looking request cacheScope load =>
      match s.calls load with
      | .loaded _ answer =>
        some (s.setFlow flow (afterLoad py mirrorHost request cacheScope load answer))
      | _ => none
    | _ => none
  | .responded flow response =>
    match s.flows flow with
    | .passed request cacheScope load originalUrl _ =>
      some (s.setFlow flow (.answered request cacheScope load originalUrl
        (response.headed py bodyDigest request originalUrl)))
    | _ => none
  | .response flow id =>
    match s.flows flow, s.calls id with
    | .answered request cacheScope load originalUrl response, .idle =>
      some ((s.setCall id ((response.storeCall request cacheScope originalUrl).begin py bodyDigest
        hexdigest)).setFlow flow (.storing load id))
    | _, _ => none

end Cache

end Semantics

end HarnessTraining.Netcache
