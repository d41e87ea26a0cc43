import HarnessTraining.Library.StateExcept
import HarnessTraining.Library.Text
import HarnessTraining.Replay.Keys

/-!
# What the network cache knows a response by

The keys of `src/env/netcache/mitm_https_cache.py`: a response is known by the scope, the method, the
canonical URL and, for a `POST`, the body of its request.  `urlsplit` and its companions are those of
`urllib.parse`; case, white space and the checks of a host name are parameters.

* `Identity.keyText_inj` — requests of different identities have different keys, if no scope holds
  the separator.
-/

set_option autoImplicit false

namespace HarnessTraining.Netcache

abbrev Bytes := List UInt8

abbrev Headers := List (String × String)

/-- What the keys take from Python's text functions. -/
structure PythonText where
  lower : String → String
  upper : String → String
  isSpace : Char → Bool
  /-- The `ValueError` for a network location: brackets, or characters that normalize to delimiters. -/
  netlocError : String → Option String

/-- What is assumed of `hashlib.sha256(...).hexdigest()`, on bytes. -/
structure BodyDigest where
  digest : Bytes → String
  injective : Function.Injective digest
  hex : ∀ body, ∀ c ∈ (digest body).toList, isHex c = true

/-! ## URLs -/

/-- `urllib.parse.SplitResult`. -/
structure SplitResult where
  scheme : String
  netloc : String
  path : String
  query : String
  fragment : String

/-- `text.partition(sep)`, without the separator. -/
def partition (sep : Char) (text : List Char) : List Char × List Char :=
  let (before, after) := text.span (· ≠ sep)
  (before, after.tail)

def isSchemeChar (c : Char) : Bool := c.isAlphanum || c ∈ ['+', '-', '.']

section Url

variable (py : PythonText)

/-- The scheme, in lower case, and what follows it. -/
def splitScheme (url : List Char) : String × List Char :=
  match url.span (· ≠ ':') with
  | (first :: scheme, _ :: rest) =>
    if first.isAlpha && scheme.all isSchemeChar then (py.lower (String.ofList (first :: scheme)), rest)
    else ("", url)
  | _ => ("", url)

/-- `urlsplit`. -/
def urlsplit (url : String) : Except String SplitResult :=
  let cleaned := (url.toList.dropWhile (·.toNat ≤ 0x20)).filter (· ∉ ['\t', '\r', '\n'])
  let (scheme, rest) := splitScheme py cleaned
  let (netloc, rest) :=
    match rest with
    | '/' :: '/' :: rest => rest.span (· ∉ ['/', '?', '#'])
    | rest => ([], rest)
  match py.netlocError (String.ofList netloc) with
  | some text => throw text
  | none =>
    let (rest, fragment) := partition '#' rest
    let (path, query) := partition '?' rest
    return ⟨scheme, String.ofList netloc, String.ofList path, String.ofList query,
      String.ofList fragment⟩

/-- `parsed.hostname or ""`: a zone is not lowered. -/
def SplitResult.hostname (parsed : SplitResult) : String :=
  let hostinfo := (parsed.netloc.toList.reverse.takeWhile (· ≠ '@')).reverse
  let hostname := if '[' ∈ hostinfo then (partition ']' (partition '[' hostinfo).2).1
    else (partition ':' hostinfo).1
  py.lower (String.ofList (hostname.takeWhile (· ≠ '%'))) ++
    String.ofList (hostname.dropWhile (· ≠ '%'))

/-- `(parsed.hostname or "").lower()`. -/
def SplitResult.host (parsed : SplitResult) : String := py.lower (parsed.hostname py)

/-- The schemes that have a network location. -/
def usesNetloc : List String :=
  ["", "ftp", "http", "gopher", "nntp", "telnet", "imap", "wais", "file", "mms", "https", "shttp",
    "snews", "prospero", "rtsp", "rtsps", "rtspu", "rsync", "svn", "svn+ssh", "sftp", "nfs", "git",
    "git+ssh", "ws", "wss", "itms-services"]

/-- `urlunsplit`. -/
def urlunsplit (parts : SplitResult) : String :=
  let url :=
    if parts.netloc ≠ "" then
      "//" ++ parts.netloc ++
        if parts.path ≠ "" ∧ parts.path.toList.head? ≠ some '/' then "/" ++ parts.path else parts.path
    else if parts.path.toList.take 2 = ['/', '/'] then "//" ++ parts.path
    else if parts.scheme ≠ "" ∧ parts.scheme ∈ usesNetloc ∧
        (parts.path = "" ∨ parts.path.toList.head? = some '/') then "//" ++ parts.path
    else parts.path
  let url := if parts.scheme ≠ "" then parts.scheme ++ ":" ++ url else url
  let url := if parts.query ≠ "" then url ++ "?" ++ parts.query else url
  if parts.fragment ≠ "" then url ++ "#" ++ parts.fragment else url

/-- `_canonical_url`. -/
def canonicalUrl (parsed : SplitResult) (keepQuery : Bool) : String :=
  urlunsplit ⟨py.lower parsed.scheme, py.lower parsed.netloc, parsed.path,
    if keepQuery then parsed.query else "", ""⟩

/-! ## Headers -/

/-- `_has_header`. -/
def hasHeader (headers : Headers) (name : String) : Bool :=
  headers.any fun header ↦ py.lower header.1 = name

/-- `text.strip()`. -/
def strip (text : List Char) : List Char :=
  ((text.dropWhile py.isSpace).reverse.dropWhile py.isSpace).reverse

/-- `_has_uncacheable_vary`. -/
def hasUncacheableVary (headers : Headers) : Bool :=
  headers.any fun header ↦ py.lower header.1 = "vary" &&
    (header.2.toList.splitOn ',').any fun token ↦
      let token := py.lower (String.ofList (strip py token))
      token ≠ "" && token ≠ "accept-encoding"

def hopByHopHeaders : List String :=
  ["connection", "content-length", "keep-alive", "proxy-authenticate", "proxy-authorization", "te",
    "trailer", "transfer-encoding", "upgrade"]

def volatileResponseHeaders : List String :=
  ["age", "date", "via", "server-timing", "x-served-by", "x-cache", "x-cache-hits", "x-timer",
    "x-request-id", "x-amzn-trace-id", "x-amz-request-id", "x-amz-id-2", "x-amz-cf-id",
    "x-amz-cf-pop", "x-fastly-request-id", "cf-ray", "x-github-request-id", "x-ratelimit-remaining",
    "x-ratelimit-reset", "x-ratelimit-used"]

/-- `_cacheable_headers`. -/
def cacheableHeaders (headers : Headers) : Headers :=
  headers.filter fun header ↦ py.lower header.1 ∉ hopByHopHeaders ++ volatileResponseHeaders

/-! ## The URL of an entry -/

def githubReleaseHosts : List String :=
  ["objects.githubusercontent.com", "github-releases.githubusercontent.com",
    "release-assets.githubusercontent.com"]

/-- `part in text`. -/
def occursIn (part text : String) : Bool := text.toList.tails.any part.toList.isPrefixOf

/-- Whether the query of a `GET` is a part of what it asks for. -/
def keepsQuery (parsed : SplitResult) : Bool :=
  !(parsed.host py ∈ githubReleaseHosts ||
    parsed.host py = "github.com" && occursIn "/releases/download/" parsed.path)

/-- `_cache_url`. -/
def cacheUrl (bodyDigest : BodyDigest) (method url : String) (requestHeaders : Headers)
    (requestBody : Bytes) (responseHeaders : Headers) : Except String (Option String) :=
  if hasHeader py requestHeaders "range" then return none
  else if hasUncacheableVary py responseHeaders ∨ hasHeader py responseHeaders "content-encoding" then
    return none
  else do
    let parsed ← urlsplit py url
    if py.upper method = "GET" then return canonicalUrl py parsed (keepsQuery py parsed)
    if py.upper method = "POST" then
      return canonicalUrl py parsed true ++ "#body-sha256=" ++ bodyDigest.digest requestBody
    return none

/-- `_cache_entry_dir`, of which the digest is all that varies. -/
def cacheEntryDir (hexdigest : Hexdigest) (cacheScope method url : String) : String :=
  hexdigest.digest (cacheScope ++ "\x00" ++ py.upper method ++ " " ++ url)

/-- `_pinned_upstream_url`; `mirrorHost` is the host of the environment, or the default. -/
def pinnedUpstreamUrl (mirrorHost url : String) : Except String (Option String) := do
  let parsed ← urlsplit py url
  if parsed.host py = "deb.debian.org" ∧ "/debian/pool/".toList.isPrefixOf parsed.path.toList ∧
      "/debian/pool/".length < parsed.path.length then
    return urlunsplit ⟨"http", mirrorHost, parsed.path, parsed.query, ""⟩
  return none

end Url

/-! ## Identities -/

/-- What a response is known by; a `POST` has a body. -/
structure Identity where
  scope : String
  url : String
  body : Option Bytes
  deriving DecidableEq

namespace Identity

variable (py : PythonText) (bodyDigest : BodyDigest) (hexdigest : Hexdigest)

def method (identity : Identity) : String := if identity.body.isSome then "POST" else "GET"

/-- The URL of the entry. -/
def cacheUrl (identity : Identity) : String :=
  match identity.body with
  | none => identity.url
  | some body => identity.url ++ "#body-sha256=" ++ bodyDigest.digest body

/-- The text that is hashed. -/
def keyText (identity : Identity) : String :=
  identity.scope ++ "\x00" ++ identity.method ++ " " ++ identity.cacheUrl bodyDigest

/-- What a request is known by, if its response can be frozen at all. -/
def ofRequest (scope method url : String) (requestHeaders : Headers) (requestBody : Bytes)
    (responseHeaders : Headers) : Except String (Option Identity) :=
  if hasHeader py requestHeaders "range" then return none
  else if hasUncacheableVary py responseHeaders ∨ hasHeader py responseHeaders "content-encoding" then
    return none
  else do
    let parsed ← urlsplit py url
    if py.upper method = "GET" then
      return some ⟨scope, canonicalUrl py parsed (keepsQuery py parsed), none⟩
    if py.upper method = "POST" then
      return some ⟨scope, canonicalUrl py parsed true, some requestBody⟩
    return none

end Identity

section Keys

variable {py : PythonText} {bodyDigest : BodyDigest} {hexdigest : Hexdigest}

/-- The key of a request is that of its identity. -/
theorem cacheUrl_eq (scope method url : String) (requestHeaders : Headers) (requestBody : Bytes)
    (responseHeaders : Headers) :
    cacheUrl py bodyDigest method url requestHeaders requestBody responseHeaders =
      (Identity.ofRequest py scope method url requestHeaders requestBody responseHeaders).map
        (·.map (Identity.cacheUrl bodyDigest)) := by
  rw [cacheUrl, Identity.ofRequest]
  split
  · rfl
  split
  · rfl
  cases urlsplit py url with
  | error text => rfl
  | ok parsed =>
    rw [StateExcept.ok_bind, StateExcept.ok_bind]
    split
    · rfl
    split
    · rfl
    · rfl

theorem ofRequest_some {scope method url : String} {requestHeaders responseHeaders : Headers}
    {requestBody : Bytes} {identity : Identity}
    (h : Identity.ofRequest py scope method url requestHeaders requestBody responseHeaders =
      .ok (some identity)) : identity.scope = scope ∧ identity.method = py.upper method := by
  rw [Identity.ofRequest] at h
  split at h
  · cases h
  split at h
  · cases h
  obtain ⟨parsed, -, h⟩ := StateExcept.bind_eq_ok h
  split at h
  · next hget =>
    cases h
    exact ⟨rfl, hget.symm⟩
  split at h
  · next hpost =>
    cases h
    exact ⟨rfl, hpost.symm⟩
  · cases h

theorem Identity.toList_keyText (identity : Identity) :
    (identity.keyText bodyDigest).toList = identity.scope.toList ++
      '\x00' :: (identity.method.toList ++ ' ' :: (identity.cacheUrl bodyDigest).toList) := by
  simp [Identity.keyText]

theorem Identity.space_notMem_method (identity : Identity) : ' ' ∉ identity.method.toList := by
  rw [Identity.method]
  split <;> decide

/-- The suffix of a `POST`. -/
theorem toList_postUrl (url : String) (body : Bytes) :
    (url ++ "#body-sha256=" ++ bodyDigest.digest body).toList =
      url.toList ++ '#' :: ("body-sha256=".toList ++ (bodyDigest.digest body).toList) := by
  simp

theorem hash_notMem_suffix (body : Bytes) :
    '#' ∉ "body-sha256=".toList ++ (bodyDigest.digest body).toList := by
  intro h
  rcases List.mem_append.mp h with h | h
  · exact absurd h (by decide)
  · exact absurd (bodyDigest.hex body _ h) (by decide)

/-- **Different identities have different keys**, if no scope holds the separator. -/
theorem Identity.keyText_inj {a b : Identity} (ha : '\x00' ∉ a.scope.toList)
    (hb : '\x00' ∉ b.scope.toList) (h : a.keyText bodyDigest = b.keyText bodyDigest) : a = b := by
  have htext := congrArg String.toList h
  rw [toList_keyText, toList_keyText] at htext
  obtain ⟨hscope, hrest⟩ := Text.append_cons_inj ha hb htext
  obtain ⟨hmethod, hurl⟩ := Text.append_cons_inj a.space_notMem_method b.space_notMem_method hrest
  rcases a with ⟨scope, url, body⟩
  rcases b with ⟨scope', url', body'⟩
  obtain rfl : scope = scope' := String.toList_inj.mp hscope
  cases body with
  | none =>
    cases body' with
    | none =>
      obtain rfl : url = url' := String.toList_inj.mp hurl
      rfl
    | some body' => exact absurd hmethod (show "GET".toList ≠ "POST".toList by decide)
  | some body =>
    cases body' with
    | none => exact absurd hmethod (show "POST".toList ≠ "GET".toList by decide)
    | some body' =>
      simp only [Identity.cacheUrl, toList_postUrl] at hurl
      obtain ⟨hbefore, hafter⟩ :=
        Text.append_cons_inj_last (hash_notMem_suffix body) (hash_notMem_suffix body') hurl
      obtain rfl : url = url' := String.toList_inj.mp hbefore
      obtain rfl : body = body' :=
        bodyDigest.injective (String.toList_inj.mp (List.append_cancel_left hafter))
      rfl

end Keys

end HarnessTraining.Netcache
