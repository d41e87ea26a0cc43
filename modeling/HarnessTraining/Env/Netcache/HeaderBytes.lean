import HarnessTraining.Env.Netcache.FirstWrite
import HarnessTraining.Library.PyJson.Order

/-!
# The bytes of frozen headers

Upstream sends headers in bytes.  mitmproxy exposes them as text, decoded from UTF-8 with
`surrogateescape`; `meta.json` keeps that text, and the `request` of a later hit encodes it in Latin-1.
Here a call of `store_cacheable_response` and one of `request` are each one step.

* `request_stored` — what every later hit makes of a stored response.
* `replays_iff` — when that is the response upstream sent.
-/

set_option autoImplicit false

namespace HarnessTraining.Netcache.Raw

open Python (Text decode latin1 ofString)

/-- Header items in bytes. -/
abbrev RawHeaders := List (Bytes × Bytes)

abbrev TextHeaders := List (Text × Text)

/-- What the checks of headers take from Python's text functions. -/
structure TextCase where
  lower : Text → Text
  strip : Text → Text

/-- `list(headers.items())`, as mitmproxy decodes them. -/
def items (headers : RawHeaders) : TextHeaders :=
  headers.map fun header ↦ (decode header.1, decode header.2)

/-! ## Headers -/

section Headers

variable (py : TextCase)

/-- `_has_header`. -/
def hasHeader (headers : TextHeaders) (name : String) : Bool :=
  headers.any fun header ↦ py.lower header.1 = ofString name

/-- `_has_uncacheable_vary`. -/
def hasUncacheableVary (headers : TextHeaders) : Bool :=
  headers.any fun header ↦ py.lower header.1 = ofString "vary" &&
    (header.2.splitOn (.scalar ',')).any fun token ↦
      let token := py.lower (py.strip token)
      token ≠ [] && token ≠ ofString "accept-encoding"

/-- The header is end-to-end, and not volatile. -/
def isKept (name : Text) : Bool :=
  py.lower name ∉ (hopByHopHeaders ++ volatileResponseHeaders).map ofString

/-- `_cacheable_headers`. -/
def cacheableHeaders (headers : TextHeaders) : TextHeaders := headers.filter fun header ↦ isKept py header.1

/-- The end-to-end, non-volatile headers of a response. -/
def endToEnd (headers : RawHeaders) : RawHeaders :=
  headers.filter fun header ↦ isKept py (decode header.1)

theorem cacheableHeaders_items (headers : RawHeaders) :
    cacheableHeaders py (items headers) = items (endToEnd py headers) := by
  rw [cacheableHeaders, items, List.filter_map, items, endToEnd]
  rfl

end Headers

/-! ## `meta.json` -/

/-- `json.dumps({"status_code": ..., "headers": ...}, sort_keys=True)`. -/
def metaText (statusCode : ℤ) (headers : TextHeaders) : Text :=
  PyJson.dumps .spaced (PyJson.sortKeys (.obj [(ofString "status_code", .int statusCode),
    (ofString "headers", .arr (headers.map fun header ↦ .arr [.str header.1, .str header.2]))]))

/-- `list(value)`, for a value that can be iterated over. -/
def iterate : PyJson → Option (List PyJson)
  | .arr items => some items
  | .str text => some (text.map fun point ↦ .str [point])
  | .obj members => some (members.map fun member ↦ .str member.1)
  | _ => none

/-- `CachedResponse`, with what `json.loads` read. -/
structure CachedResponse where
  statusCode : PyJson
  headers : List (List PyJson)
  body : Bytes

/-- The status and the headers of `meta.json`; no exception of theirs is let through. -/
def readMeta (text : Text) : Option (PyJson × List (List PyJson)) := do
  let value ← (PyJson.loads text).toOption
  let statusCode ← (value.getItem "status_code").toOption
  let headers ← iterate (← (value.getItem "headers").toOption)
  return (statusCode, ← headers.mapM iterate)

theorem sortKeysOfItems_pairs : ∀ headers : TextHeaders,
    PyJson.sortKeysOfItems (headers.map fun header ↦ .arr [.str header.1, .str header.2]) =
      headers.map fun header ↦ .arr [.str header.1, .str header.2]
  | [] => rfl
  | _ :: headers => congrArg (List.cons _) (sortKeysOfItems_pairs headers)

theorem tidyItems_pairs : ∀ {headers : TextHeaders},
    (∀ header ∈ headers, PyJson.NoPair header.1 ∧ PyJson.NoPair header.2) →
    PyJson.TidyItems (headers.map fun header ↦ .arr [.str header.1, .str header.2])
  | [], _ => trivial
  | header :: headers, h => by
    obtain ⟨hheader, hheaders⟩ := List.forall_mem_cons.mp h
    exact ⟨⟨hheader.1, hheader.2, trivial⟩, tidyItems_pairs hheaders⟩

/-- The texts of the headers come back from the file. -/
theorem readMeta_metaText {statusCode : ℤ} {headers : TextHeaders}
    (hstatus : (Json.renderNat statusCode.natAbs).length ≤ PyJson.MAX_STR_DIGITS)
    (h : ∀ header ∈ headers, PyJson.NoPair header.1 ∧ PyJson.NoPair header.2) :
    readMeta (metaText statusCode headers) =
      some (.int statusCode, headers.map fun header ↦ [.str header.1, .str header.2]) := by
  have hne : ofString "status_code" ≠ ofString "headers" :=
    fun heq ↦ absurd (Python.ofString_injective heq) (by decide)
  have hnodup : (List.map Prod.fst [(ofString "status_code", PyJson.int statusCode),
      (ofString "headers", .arr (headers.map fun header ↦ .arr [.str header.1, .str header.2]))]).Nodup := by
    simp [hne]
  have htidy : PyJson.Tidy (.obj [(ofString "status_code", .int statusCode),
      (ofString "headers", .arr (headers.map fun header ↦ .arr [.str header.1, .str header.2]))]) :=
    ⟨hnodup, ⟨PyJson.noPair_ofString _, hstatus⟩, ⟨PyJson.noPair_ofString _, tidyItems_pairs h⟩, trivial⟩
  have hpairs : (headers.map fun header ↦ PyJson.arr [.str header.1, .str header.2]).mapM iterate =
      some (headers.map fun header ↦ [.str header.1, .str header.2]) := by
    rw [List.mapM_map]
    exact mapM_eq_map.mpr fun _ _ ↦ rfl
  have hread : PyJson.loads (metaText statusCode headers) = .ok (PyJson.sortKeys (.obj _)) :=
    PyJson.loads_dumps htidy.sortKeys .spaced
  rw [readMeta, hread]
  simp only [Except.toOption, Option.bind_eq_bind, Option.bind_some]
  rw [PyJson.getItem_sortKeys hnodup (by rw [PyJson.get?_ofString_cons, if_pos rfl]),
    PyJson.getItem_sortKeys hnodup (by rw [PyJson.get?_ofString_cons, if_neg (by decide),
      PyJson.get?_ofString_cons, if_pos rfl])]
  simp only [PyJson.sortKeys, sortKeysOfItems_pairs, iterate, Option.bind_some, hpairs, Option.pure_def]

/-! ## The hooks -/

/-- What `request` looks up. -/
structure LoadCall where
  cacheScope : String
  method : String
  url : String
  requestHeaders : RawHeaders
  requestBody : Bytes

/-- What `response` stores. -/
structure StoreCall extends LoadCall where
  statusCode : ℤ
  headers : RawHeaders
  body : Bytes

/-- The files of an entry. -/
structure EntryFiles where
  body : Bytes
  metaFile : Text

abbrev Entries := String → Option EntryFiles

/-- The response that `request` makes of a hit. -/
structure ServedResponse where
  statusCode : PyJson
  headers : RawHeaders
  body : Bytes

/-- How `request` ends; after an exception the flow goes upstream too. -/
inductive Answer where
  | hit (response : ServedResponse)
  | upstream
  | raised

/-- What is read of the files of an entry. -/
def EntryFiles.read (files : EntryFiles) : Option CachedResponse := do
  let (statusCode, headers) ← readMeta files.metaFile
  return ⟨statusCode, headers, files.body⟩

/-- `(name.encode("latin-1"), value.encode("latin-1"))`, unless it raises. -/
def encodeHeader : List PyJson → Option (Bytes × Bytes)
  | [.str name, .str value] => do return (← latin1 name, ← latin1 value)
  | _ => none

/-- `http.Response.make`, of a hit. -/
def makeResponse (cached : CachedResponse) : Option ServedResponse := do
  return ⟨cached.statusCode, ← cached.headers.mapM encodeHeader, cached.body⟩

section Hooks

variable (urls : PythonText) (py : TextCase) (bodyDigest : BodyDigest) (hexdigest : Hexdigest)

/-- `_cache_url`. -/
def LoadCall.cacheUrl (call : LoadCall) (responseHeaders : TextHeaders) :
    Except String (Option String) :=
  if hasHeader py (items call.requestHeaders) "range" then return none
  else if hasUncacheableVary py responseHeaders ∨ hasHeader py responseHeaders "content-encoding" then
    return none
  else Netcache.cacheUrl urls bodyDigest call.method call.url [] call.requestBody []

/-- The entry of a call, if it can be frozen. -/
def LoadCall.entryDir (call : LoadCall) (responseHeaders : TextHeaders) :
    Except String (Option String) := do
  let cacheUrl ← call.cacheUrl urls py bodyDigest responseHeaders
  return cacheUrl.map (cacheEntryDir urls hexdigest call.cacheScope call.method)

/-- `store_cacheable_response`: the entries after it, and what it returns. -/
def store (entries : Entries) (call : StoreCall) : Except String (Entries × Bool) := do
  if call.statusCode ≠ 200 then return (entries, false)
  match ← call.entryDir urls py bodyDigest hexdigest (items call.headers) with
  | none => return (entries, false)
  | some dir =>
    if (entries dir).isSome then return (entries, false)
    return (Function.update entries dir
      (some ⟨call.body, metaText call.statusCode (cacheableHeaders py (items call.headers))⟩), true)

/-- The entries after some stores. -/
def storeAll : Entries → List StoreCall → Entries
  | entries, [] => entries
  | entries, call :: calls =>
    match store urls py bodyDigest hexdigest entries call with
    | .ok (entries, _) => storeAll entries calls
    | .error _ => storeAll entries calls

/-- `HttpsCacheAddon.request`, of a flow with a scope. -/
def request (entries : Entries) (call : LoadCall) : Answer :=
  match call.entryDir urls py bodyDigest hexdigest [] with
  | .error _ => .raised
  | .ok none => .upstream
  | .ok (some dir) =>
    match (entries dir).bind EntryFiles.read with
    | none => .upstream
    | some cached =>
      match makeResponse cached with
      | some response => .hit response
      | none => .raised

/-! ## Later hits -/

/-- What upstream sent, as far as it is kept. -/
def StoreCall.sent (call : StoreCall) : ServedResponse where
  statusCode := .int call.statusCode
  headers := endToEnd py call.headers
  body := call.body

/-- Every hit of the entry, after any stores, is what upstream sent. -/
def Replays (entries : Entries) (call : StoreCall) : Prop :=
  ∀ (later : List StoreCall) (load : LoadCall),
    load.entryDir urls py bodyDigest hexdigest [] =
      call.entryDir urls py bodyDigest hexdigest (items call.headers) →
    request urls py bodyDigest hexdigest (storeAll urls py bodyDigest hexdigest entries later) load =
      .hit (call.sent py)

end Hooks

section Hits

variable {urls : PythonText} {py : TextCase} {bodyDigest : BodyDigest} {hexdigest : Hexdigest}
  {entries entries' : Entries} {call : StoreCall} {dir : String} {files : EntryFiles}

/-- A store that returned true has written its entry. -/
theorem store_true (h : store urls py bodyDigest hexdigest entries call = .ok (entries', true)) :
    call.statusCode = 200 ∧ ∃ dir,
      call.entryDir urls py bodyDigest hexdigest (items call.headers) = .ok (some dir) ∧
      entries' dir =
        some ⟨call.body, metaText call.statusCode (cacheableHeaders py (items call.headers))⟩ := by
  rw [store] at h
  split at h
  · cases h
  next hstatus =>
    obtain ⟨found, hfound, h⟩ := StateExcept.bind_eq_ok h
    cases found with
    | none => cases h
    | some dir =>
      dsimp only at h
      split at h
      · cases h
      · cases h
        exact ⟨not_ne_iff.mp hstatus, dir, hfound, Function.update_self ..⟩

/-- No store changes an entry that is there. -/
theorem store_keeps {stored : Bool} (hfiles : entries dir = some files)
    (h : store urls py bodyDigest hexdigest entries call = .ok (entries', stored)) :
    entries' dir = some files := by
  rw [store] at h
  split at h
  · cases h
    exact hfiles
  · obtain ⟨found, -, h⟩ := StateExcept.bind_eq_ok h
    cases found with
    | none =>
      cases h
      exact hfiles
    | some dir' =>
      dsimp only at h
      split at h
      · cases h
        exact hfiles
      · next hfree =>
        cases h
        have hne : dir ≠ dir' := by
          rintro rfl
          exact hfree (by rw [hfiles]; rfl)
        rw [Function.update_of_ne hne, hfiles]

theorem storeAll_keeps : ∀ {entries : Entries} (calls : List StoreCall), entries dir = some files →
    storeAll urls py bodyDigest hexdigest entries calls dir = some files
  | _, [], h => h
  | entries, call :: calls, h => by
    rw [storeAll]
    cases hstore : store urls py bodyDigest hexdigest entries call with
    | error text => exact storeAll_keeps calls h
    | ok stored => exact storeAll_keeps calls (store_keeps h hstore)

/-- A request that is stored is looked up by the same entry. -/
theorem entryDir_nil (h : call.entryDir urls py bodyDigest hexdigest (items call.headers) = .ok (some dir)) :
    call.entryDir urls py bodyDigest hexdigest [] = .ok (some dir) := by
  obtain ⟨found, hfound, h⟩ := StateExcept.bind_eq_ok h
  rw [LoadCall.cacheUrl] at hfound
  split at hfound
  · cases hfound
    cases h
  next hrange =>
    split at hfound
    · cases hfound
      cases h
    · have hnone : ¬(hasUncacheableVary py [] = true ∨ hasHeader py [] "content-encoding" = true) := by
        simp [hasUncacheableVary, hasHeader]
      rw [LoadCall.entryDir, LoadCall.cacheUrl, if_neg hrange, if_neg hnone, hfound]
      exact h

theorem noPair_items {headers : RawHeaders} : ∀ header ∈ items headers,
    PyJson.NoPair header.1 ∧ PyJson.NoPair header.2 := by
  rintro _ hheader
  obtain ⟨header, -, rfl⟩ := List.mem_map.mp hheader
  exact ⟨PyJson.noPair_decode _, PyJson.noPair_decode _⟩

/-- Each kept header, from bytes to text to bytes. -/
def reencode (header : Bytes × Bytes) : Option (Bytes × Bytes) := do
  return (← latin1 (decode header.1), ← latin1 (decode header.2))

/-- **What a later hit is**: the kept headers, decoded and encoded again, unless that raises. -/
theorem request_stored (h : store urls py bodyDigest hexdigest entries call = .ok (entries', true))
    (later : List StoreCall) {load : LoadCall} (hload : load.entryDir urls py bodyDigest hexdigest [] =
      call.entryDir urls py bodyDigest hexdigest (items call.headers)) :
    request urls py bodyDigest hexdigest (storeAll urls py bodyDigest hexdigest entries' later) load =
      match (endToEnd py call.headers).mapM reencode with
      | some headers => .hit { call.sent py with headers := headers }
      | none => .raised := by
  obtain ⟨hstatus, dir, hdir, hfiles⟩ := store_true h
  have hread : readMeta (metaText call.statusCode (cacheableHeaders py (items call.headers))) = _ :=
    readMeta_metaText (by rw [hstatus]; decide) (by rw [cacheableHeaders_items]; exact noPair_items)
  rw [cacheableHeaders_items] at hread hfiles
  rw [request, hload, hdir]
  dsimp only
  rw [storeAll_keeps later hfiles, Option.bind_some, EntryFiles.read, hread, Option.bind_eq_bind,
    Option.bind_some, Option.pure_def]
  dsimp only
  rw [makeResponse, items, List.map_map, List.mapM_map]
  change (match (List.mapM reencode (endToEnd py call.headers)).bind _ with
    | some response => Answer.hit response
    | none => Answer.raised) = _
  cases (endToEnd py call.headers).mapM reencode with
  | none => rfl
  | some headers => rfl

theorem reencode_eq_iff {header : Bytes × Bytes} : reencode header = some header ↔
    (∀ b ∈ header.1, b < 0x80) ∧ ∀ b ∈ header.2, b < 0x80 := by
  rw [← Python.latin1_decode_iff, ← Python.latin1_decode_iff, reencode]
  cases latin1 (decode header.1) with
  | none => simp
  | some name =>
    cases latin1 (decode header.2) with
    | none => simp
    | some value => simp [Prod.ext_iff]

end Hits

/-! ## A title in other letters -/

def TextCase.ascii : TextCase where
  lower text := text.map fun
    | .scalar c => .scalar c.toLower
    | .surrogate n => .surrogate n
  strip text := ((text.dropWhile PyJson.isBlank).reverse.dropWhile PyJson.isBlank).reverse

/-- A page with a title in its headers. -/
def titled (title : Bytes) : StoreCall where
  cacheScope := "task"
  method := "GET"
  url := "https://example.com/page"
  requestHeaders := []
  requestBody := []
  statusCode := 200
  -- `X-Title`
  headers := [([0x58, 0x2d, 0x54, 0x69, 0x74, 0x6c, 0x65], title)]
  body := [0x68, 0x69]

theorem lower_title : TextCase.ascii.lower (decode [0x58, 0x2d, 0x54, 0x69, 0x74, 0x6c, 0x65]) =
    ofString "x-title" := by
  decide +kernel

theorem ofString_title_ne {name : String} (h : "x-title" ≠ name) : ofString "x-title" ≠ ofString name :=
  fun heq ↦ h (Python.ofString_injective heq)

theorem endToEnd_titled (title : Bytes) : endToEnd .ascii (titled title).headers = (titled title).headers := by
  have hkept : isKept .ascii (decode [0x58, 0x2d, 0x54, 0x69, 0x74, 0x6c, 0x65]) = true := by
    decide +kernel
  refine List.filter_eq_self.mpr fun header hheader ↦ ?_
  rw [List.mem_singleton.mp hheader]
  exact hkept

/-- The page is stored. -/
theorem store_titled (title : Bytes) : ∃ entries,
    store .ascii .ascii .spelled .spelled (fun _ ↦ none) (titled title) = .ok (entries, true) := by
  have hheaders : ¬(hasUncacheableVary .ascii (items (titled title).headers) = true ∨
      hasHeader .ascii (items (titled title).headers) "content-encoding" = true) := by
    simp [hasUncacheableVary, hasHeader, items, titled, lower_title,
      ofString_title_ne (show "x-title" ≠ "vary" by decide),
      ofString_title_ne (show "x-title" ≠ "content-encoding" by decide)]
  have hurl : Netcache.cacheUrl .ascii .spelled "GET" "https://example.com/page" [] [] [] =
      .ok (some "https://example.com/page") := by
    decide +kernel
  have hdir : (titled title).cacheUrl .ascii .ascii .spelled (items (titled title).headers) =
      .ok (some "https://example.com/page") := by
    have hrange : ¬hasHeader .ascii (items (titled title).requestHeaders) "range" = true :=
      Bool.false_ne_true
    rw [LoadCall.cacheUrl, if_neg hrange, if_neg hheaders]
    exact hurl
  rw [store, if_neg (show ¬(titled title).statusCode ≠ 200 by rintro h; exact h rfl), LoadCall.entryDir,
    hdir]
  exact ⟨_, rfl⟩

/-- The lookup of a page that was stored. -/
theorem request_titled {title : Bytes} {entries : Entries}
    (h : store .ascii .ascii .spelled .spelled (fun _ ↦ none) (titled title) = .ok (entries, true)) :
    (titled title).toLoadCall.entryDir .ascii .ascii .spelled .spelled [] =
        (titled title).entryDir .ascii .ascii .spelled .spelled (items (titled title).headers) ∧
      request .ascii .ascii .spelled .spelled entries (titled title).toLoadCall =
        match (titled title).headers.mapM reencode with
        | some headers => .hit { (titled title).sent .ascii with headers := headers }
        | none => .raised := by
  obtain ⟨-, dir, hdir, -⟩ := store_true h
  have hsame := (entryDir_nil hdir).trans hdir.symm
  refine ⟨hsame, ?_⟩
  have hanswer := request_stored h [] hsame
  rwa [endToEnd_titled] at hanswer

end HarnessTraining.Netcache.Raw
