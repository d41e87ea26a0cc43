import HarnessTraining.Env.Netcache.FirstWrite
import HarnessTraining.Library.Base64

/-!
# Scopes of the network freeze

How a replay scope reaches the proxy: `_network_snapshot_token` of `src/plugins/replay/contract.py`,
the exports of `ContainerNetworkCache` in `src/env/netcache/__init__.py`, the credentials that
`setup-terminal-bench-container.sh` puts into the URL of the proxy, and what `mitm_https_cache.py`
reads of them.  A client sends the credentials of its proxy as `Basic` authorization.

* `networkSnapshotToken_inj` — a token names one scope.
* `authorization_eq` — what a container sends.
* `scopeFromProxyAuthorization_credentials` — the proxy reads the token that was pinned.
-/

set_option autoImplicit false

namespace HarnessTraining.Netcache

/-! ## Tokens -/

/-- `_network_snapshot_token`. -/
def networkSnapshotToken (scope : ReplayScope) : String :=
  String.ofList (Base64.urlSafe.stripped (encodeUtf8 (canonicalScope scope)))

/-- `bytes.decode()`. -/
def decodeUtf8 (bytes : Bytes) : Option String := String.fromUTF8? bytes.toByteArray

theorem decodeUtf8_encodeUtf8 (text : String) : decodeUtf8 (encodeUtf8 text) = some text := by
  have hbytes : (encodeUtf8 text).toByteArray = text.toByteArray := String.utf8Encode_toList
  rw [decodeUtf8, hbytes, String.fromUTF8?, dif_pos text.isValidUTF8]
  rfl

theorem encodeUtf8_injective : Function.Injective encodeUtf8 := fun text text' h ↦
  Option.some.inj (((decodeUtf8_encodeUtf8 text).symm.trans (congrArg _ h)).trans
    (decodeUtf8_encodeUtf8 text'))

/-- **A token names one scope.** -/
theorem networkSnapshotToken_inj {scope scope' : ReplayScope} :
    networkSnapshotToken scope = networkSnapshotToken scope' ↔ scope = scope' := by
  refine ⟨fun h ↦ ?_, fun h ↦ by rw [h]⟩
  have htext : encodeUtf8 (canonicalScope scope) = encodeUtf8 (canonicalScope scope') :=
    Base64.Alphabet.stripped_inj.mp (String.ofList_injective h)
  exact canonicalScope_inj.mp (encodeUtf8_injective htext)

/-- A character that the shell and a URL take for itself. -/
def isPlain (c : Char) : Bool := c.isAlphanum || c = '-' || c = '_'

theorem isPlain_urlSafe : Base64.urlSafe.symbols.all isPlain = true := by decide +kernel

theorem isPlain_networkSnapshotToken (scope : ReplayScope) :
    (networkSnapshotToken scope).toList.all isPlain = true := by
  rw [networkSnapshotToken, String.toList_ofList, List.all_eq_true]
  exact fun c hc ↦ List.all_eq_true.mp isPlain_urlSafe c (Base64.Alphabet.mem_of_mem_stripped hc)

theorem networkSnapshotToken_ne_empty (scope : ReplayScope) : networkSnapshotToken scope ≠ "" := by
  intro h
  have hlist : Base64.urlSafe.stripped (encodeUtf8 (canonicalScope scope)) =
      Base64.urlSafe.stripped (encodeUtf8 "") := by
    rw [← String.toList_ofList (l := Base64.urlSafe.stripped (encodeUtf8 (canonicalScope scope))),
      ← networkSnapshotToken, h]
    rfl
  have hempty := encodeUtf8_injective (Base64.Alphabet.stripped_inj.mp hlist)
  have hopen : ∃ tail, (canonicalScope scope).toList = '{' :: tail := by
    rw [canonicalScope, Json.dumps, String.toList_ofList]
    exact ⟨_, rfl⟩
  obtain ⟨tail, hopen⟩ := hopen
  rw [hempty] at hopen
  cases hopen

/-! ## The setup of a container -/

/-- `ContainerNetworkCache`. -/
structure ContainerNetworkCache where
  enabled : Bool
  scopeToken : Option String := none

namespace ContainerNetworkCache

/-- `pin`. -/
def pin (netcache : ContainerNetworkCache) (token : String) : Bool × ContainerNetworkCache :=
  if netcache.enabled then (true, { netcache with scopeToken := some token }) else (false, netcache)

/-- The exports of `setup_command`. -/
def cacheExports (netcache : ContainerNetworkCache) : String :=
  if netcache.enabled then
    "export FRAMEWORK_REQUIRE_CACHES=" ++ (if netcache.scopeToken.isSome then "1" else "0") ++ "\n" ++
      match netcache.scopeToken with
      | none => ""
      | some token => "export FRAMEWORK_NETWORK_CACHE_SCOPE=" ++ token ++ "\n"
  else ""

/-- `setup_command`. -/
def setupCommand (netcache : ContainerNetworkCache) (baseCommand setupScript : String) : String :=
  baseCommand ++ "\n" ++ netcache.cacheExports ++ setupScript

end ContainerNetworkCache

/-- `apply_replay_scope`, on the network cache of an environment. -/
def applyReplayScope (netcache : ContainerNetworkCache) : Option ReplayScope → ContainerNetworkCache
  | none => netcache
  | some scope => (netcache.pin (networkSnapshotToken scope)).2

/-- What `export NAME=word` assigns, if the shell takes the word for itself. -/
def readExport (line : List Char) : Option (String × String) :=
  if "export ".toList <+: line then
    let (name, word) := partition '=' (line.drop 7)
    if word.all isPlain then some (String.ofList name, String.ofList word) else none
  else none

/-- The value of a variable after some exports. -/
def exported (exports name : String) : Option String :=
  ((exports.toList.splitOn '\n').filterMap readExport).reverse.lookup name

/-- `proxy_auth` of the setup script. -/
def proxyAuth (exports : String) : String :=
  match exported exports "FRAMEWORK_NETWORK_CACHE_SCOPE" with
  | none => ""
  | some scope => if scope = "" then "" else "framework:" ++ scope ++ "@"

/-- The credentials of a client, whose proxy is at `http://{proxy_auth}host`. -/
def basicAuthorization (userinfo : String) : String :=
  "Basic " ++ String.ofList (Base64.standard.encode (encodeUtf8 userinfo))

/-- What the clients of a container send to the proxy. -/
def ContainerNetworkCache.authorization (netcache : ContainerNetworkCache) : Option String :=
  let auth := proxyAuth netcache.cacheExports
  if auth = "" then none else some (basicAuthorization (String.ofList auth.toList.dropLast))

theorem partition_append {sep : Char} {before after : List Char} (h : sep ∉ before) :
    partition sep (before ++ sep :: after) = (before, after) := by
  have hbefore : ∀ c ∈ before, decide (c ≠ sep) = true :=
    fun c hc ↦ decide_eq_true fun heq ↦ h (heq ▸ hc)
  rw [partition, List.span_eq_takeWhile_dropWhile, List.takeWhile_append_of_pos hbefore,
    List.dropWhile_append_of_pos hbefore]
  simp

theorem readExport_export {name word : String} (hname : '=' ∉ name.toList)
    (hword : word.toList.all isPlain = true) :
    readExport ("export ".toList ++ (name.toList ++ '=' :: word.toList)) = some (name, word) := by
  rw [readExport, if_pos (List.prefix_append ..)]
  have hdrop : ("export ".toList ++ (name.toList ++ '=' :: word.toList)).drop 7 =
      name.toList ++ '=' :: word.toList := rfl
  rw [hdrop, partition_append hname]
  dsimp only
  rw [if_pos hword, String.ofList_toList, String.ofList_toList]

/-- The first line of some exports. -/
theorem filterMap_readExport_cons {name word : String} {rest : List Char}
    (hname : '=' ∉ name.toList ∧ '\n' ∉ name.toList) (hword : word.toList.all isPlain = true) :
    (("export ".toList ++ (name.toList ++ '=' :: word.toList) ++ '\n' :: rest).splitOn '\n').filterMap
        readExport = (name, word) :: (rest.splitOn '\n').filterMap readExport := by
  have hline : '\n' ∉ "export ".toList ++ (name.toList ++ '=' :: word.toList) := by
    intro hc
    simp only [List.mem_append, List.mem_cons] at hc
    rcases hc with hc | hc | hc | hc
    · exact absurd hc (by decide)
    · exact hname.2 hc
    · cases hc
    · exact absurd (List.all_eq_true.mp hword _ hc) (by decide)
  have hother : ∀ c ∈ "export ".toList ++ (name.toList ++ '=' :: word.toList), (c == '\n') = false :=
    fun c hc ↦ beq_false_of_ne (ne_of_mem_of_not_mem hc hline)
  rw [List.splitOn_append_cons_of_forall_mem_beq_eq_false hother _ BEq.rfl, List.filterMap_cons,
    readExport_export hname.1 hword]

/-- The scope that the setup script finds. -/
theorem exported_cacheExports {netcache : ContainerNetworkCache}
    (hplain : ∀ token, netcache.scopeToken = some token → token.toList.all isPlain = true) :
    exported netcache.cacheExports "FRAMEWORK_NETWORK_CACHE_SCOPE" =
      if netcache.enabled then netcache.scopeToken else none := by
  obtain ⟨enabled, scopeToken⟩ := netcache
  cases enabled with
  | false => rfl
  | true =>
    cases scopeToken with
    | none => rfl
    | some token =>
      have htext : (ContainerNetworkCache.cacheExports ⟨true, some token⟩).toList =
          "export ".toList ++ ("FRAMEWORK_REQUIRE_CACHES".toList ++ '=' :: "1".toList) ++ '\n' ::
            ("export ".toList ++ ("FRAMEWORK_NETWORK_CACHE_SCOPE".toList ++ '=' :: token.toList) ++
              '\n' :: []) := by
        simp [ContainerNetworkCache.cacheExports]
      rw [exported, htext, filterMap_readExport_cons (by decide) (by decide),
        filterMap_readExport_cons (by decide) (hplain token rfl)]
      rfl

/-- The network cache of an environment under a replay scope. -/
def pinnedNetcache (enabled : Bool) (scope : Option ReplayScope) : ContainerNetworkCache :=
  applyReplayScope { enabled := enabled } scope

/-- The token that an environment is pinned to. -/
def pinnedToken (enabled : Bool) (scope : Option ReplayScope) : Option String :=
  if enabled then scope.map networkSnapshotToken else none

theorem scopeToken_pinnedNetcache (enabled : Bool) (scope : Option ReplayScope) :
    (pinnedNetcache enabled scope).enabled = enabled ∧
      (pinnedNetcache enabled scope).scopeToken = pinnedToken enabled scope := by
  cases enabled <;> cases scope <;> exact ⟨rfl, rfl⟩

/-- **What a container sends**: the token it is pinned to, or nothing. -/
theorem authorization_eq (enabled : Bool) (scope : Option ReplayScope) :
    (pinnedNetcache enabled scope).authorization =
      (pinnedToken enabled scope).map fun token ↦ basicAuthorization ("framework:" ++ token) := by
  obtain ⟨henabled, htoken⟩ := scopeToken_pinnedNetcache enabled scope
  have hplain : ∀ token, pinnedToken enabled scope = some token → token.toList.all isPlain = true ∧
      token ≠ "" := by
    intro token hsome
    rw [pinnedToken, Option.ite_none_right_eq_some] at hsome
    obtain ⟨scope, -, rfl⟩ := Option.map_eq_some_iff.mp hsome.2
    exact ⟨isPlain_networkSnapshotToken scope, networkSnapshotToken_ne_empty scope⟩
  have hexported : exported (pinnedNetcache enabled scope).cacheExports "FRAMEWORK_NETWORK_CACHE_SCOPE" =
      if (pinnedNetcache enabled scope).enabled then (pinnedNetcache enabled scope).scopeToken else none :=
    exported_cacheExports fun token hsome ↦ (hplain token (htoken ▸ hsome)).1
  rw [henabled, htoken] at hexported
  have hsame : (if enabled = true then pinnedToken enabled scope else none) = pinnedToken enabled scope := by
    cases enabled <;> rfl
  rw [ContainerNetworkCache.authorization, proxyAuth, hexported, hsame]
  cases hsome : pinnedToken enabled scope with
  | none => rfl
  | some token =>
    have hauth : "framework:" ++ token ++ "@" ≠ "" := by
      intro hempty
      have hlist := congrArg String.toList hempty
      simp at hlist
    have huserinfo : String.ofList ("framework:" ++ token ++ "@").toList.dropLast =
        "framework:" ++ token := by
      have hlist : ("framework:" ++ token ++ "@").toList = ("framework:" ++ token).toList ++ ['@'] := by
        rw [String.toList_append]
        rfl
      rw [hlist, List.dropLast_concat, String.ofList_toList]
    simp only [if_neg (hplain token hsome).2, if_neg hauth, huserinfo, Option.map_some]

/-! ## The proxy -/

/-- `_PROXY_AUTH_USER`. -/
def PROXY_AUTH_USER : String := "framework"

/-- `_scope_from_proxy_authorization`. -/
def scopeFromProxyAuthorization (py : PythonText) (value : Option String) : Option String := do
  let value ← value
  let (scheme, token) := partition ' ' value.toList
  if py.lower (String.ofList scheme) ≠ "basic" ∨ token = [] then none
  else do
    let bytes ← Base64.standard.decode token
    let decoded ← decodeUtf8 bytes
    let (user, scope) := partition ':' decoded.toList
    if String.ofList user = PROXY_AUTH_USER ∧ scope ≠ [] then some (String.ofList scope) else none

/-- **The proxy reads the token that was pinned.** -/
theorem scopeFromProxyAuthorization_credentials {py : PythonText} (hlower : py.lower "Basic" = "basic")
    {token : String} (htoken : token ≠ "") :
    scopeFromProxyAuthorization py (some (basicAuthorization ("framework:" ++ token))) = some token := by
  have hvalue : (basicAuthorization ("framework:" ++ token)).toList = "Basic".toList ++ ' ' ::
      Base64.standard.encode (encodeUtf8 ("framework:" ++ token)) := by
    have hscheme : "Basic ".toList = "Basic".toList ++ [' '] := rfl
    rw [basicAuthorization, String.toList_append, hscheme, List.append_assoc, List.singleton_append,
      String.toList_ofList (l := Base64.standard.encode _)]
  have hdecoded : ("framework:" ++ token).toList = "framework".toList ++ ':' :: token.toList := by simp
  have hencoded : Base64.standard.encode (encodeUtf8 ("framework:" ++ token)) ≠ [] := by
    intro hempty
    have hnothing : Base64.standard.encode [] = [] := Base64.Alphabet.encode.eq_1 _
    have hbytes := Base64.Alphabet.encode_injective (hempty.trans hnothing.symm)
    have hempty : encodeUtf8 "" = [] := rfl
    have htext := congrArg String.toList (encodeUtf8_injective (hbytes.trans hempty.symm))
    rw [hdecoded] at htext
    simp at htext
  have hscheme : String.ofList "Basic".toList = "Basic" := String.ofList_toList
  rw [scopeFromProxyAuthorization, Option.bind_eq_bind, Option.bind_some, hvalue,
    partition_append (by decide)]
  dsimp only
  rw [hscheme, hlower, if_neg (by simp [hencoded]), Base64.Alphabet.decode_encode, Option.bind_eq_bind,
    Option.bind_some, decodeUtf8_encodeUtf8, Option.bind_some, hdecoded, partition_append (by decide)]
  dsimp only
  rw [String.ofList_toList, String.ofList_toList, if_pos]
  refine ⟨rfl, fun hempty ↦ htoken ?_⟩
  exact String.toList_eq_nil_iff.mp hempty

end HarnessTraining.Netcache
