import HarnessTraining.Library.Transitions
import Mathlib.Data.List.Nodup
import Mathlib.Logic.Function.Basic

/-!
# The mirror of Python builds

`src/env/netcache/uv_python_mirror.py`: a read-through mirror.  Any number of processes answer requests
over one directory, a thread for each.  A thread holds the lock of its key while it looks for the file and
downloads it, to a temporary file that then replaces the target; it sends the file without the lock.

* `Mirror.step` — what each event does.
* `Mirrored` — the invariant: a target is a file that is complete, and nobody writes it.
* `mirror_serves_upstream` — whatever the order, a client gets of upstream what it asked for.
-/

set_option autoImplicit false

namespace HarnessTraining

namespace UvPythonMirror

open Transitions

/-! ## Paths -/

/-- A path below the directory of the mirror, by its parts. -/
abbrev Parts := List String

/-- The parts of a path of a request. -/
def parts (rawPath : String) : Parts :=
  ((rawPath.toList.splitOn '/').filter (· ≠ [])).map String.ofList

/-- `_cache_key`, of the path of a URL. -/
def cacheKey (rawPath : String) : Option Parts :=
  if parts rawPath = [] ∨ "." ∈ parts rawPath ∨ ".." ∈ parts rawPath then none else some (parts rawPath)

/-- A part that names an entry of its directory. -/
def IsName (part : String) : Prop := part ≠ "." ∧ part ≠ ".." ∧ part ≠ "" ∧ '/' ∉ part.toList

/-- A character of `mkstemp`. -/
def isTempChar (c : Char) : Bool := c.isLower || c.isDigit || c = '_'

/-- The path of a temporary file of a target. -/
def tempPath (target : Parts) (suffix : String) : Parts :=
  target.dropLast ++ ["." ++ target.getLastD "" ++ "." ++ suffix]

/-! ## The mirror -/

/-- A GET of a client. -/
structure MirrorRequest where
  process : ℕ
  /-- `repr(self.path)`. -/
  shown : String
  /-- The path of its URL. -/
  path : String

namespace MirrorRequest

def key (request : MirrorRequest) : Option Parts := cacheKey request.path

/-- The path that is served. -/
def target (request : MirrorRequest) : Parts := parts request.path

end MirrorRequest

inductive Node where
  | directory
  | file (inode : ℕ)
  deriving DecidableEq

abbrev Body := List UInt8

/-- What the client is sent. -/
inductive MirrorAnswer where
  | text (status : ℕ) (body : String)
  /-- A 200 with its `Content-Length`; `complete` tells that all was sent. -/
  | file (length : ℕ) (sent : Body) (complete : Bool)
  /-- The connection is closed. -/
  | nothing
  deriving DecidableEq

/-- Where a request is. -/
inductive MirrorPhase where
  | outside
  | waits
  /-- With the lock. -/
  | checks
  /-- With the lock, and a temporary file. -/
  | fetches (temp : Parts) (inode : ℕ) (received : Body)
  | sends
  /-- The headers are sent. -/
  | headed (length : ℕ)
  | streams (length inode : ℕ) (sent : Body)
  | answered (answer : MirrorAnswer)
  deriving DecidableEq

/-- What is left of a request that is cut off. -/
def MirrorPhase.cut : MirrorPhase → MirrorPhase
  | .headed length => .answered (.file length [] false)
  | .streams length _ sent => .answered (.file length sent false)
  | .answered answer => .answered answer
  | _ => .answered .nothing

/-- An exception of `_fetch_to_cache`. -/
inductive FetchError where
  | http (code : ℕ) (text : String)
  | url (text : String)
  | value (text : String)
  | other

/-- How `do_GET` answers it. -/
def FetchError.answer : FetchError → MirrorAnswer
  | .http code text => .text code text
  | .url text => .text 502 text
  | .value text => .text 400 text
  | .other => .nothing

structure Mirror where
  /-- The entries of the directory and below; the directory itself is there. -/
  nodes : Parts → Option Node := fun _ ↦ none
  contents : ℕ → Body := fun _ ↦ []
  /-- The number of files that were created. -/
  inodes : ℕ := 0
  /-- Who has a file open to write it. -/
  writer : ℕ → Option ℕ := fun _ ↦ none
  /-- Who has the lock of a key in a process. -/
  holder : ℕ → Parts → Option ℕ := fun _ _ ↦ none
  phase : ℕ → MirrorPhase := fun _ ↦ .outside
  killed : ℕ → Bool := fun _ ↦ false
  /-- What was downloaded: in which process, for which key. -/
  downloads : List (ℕ × Parts × Body) := []

inductive MirrorEvent where
  | arrives (request : ℕ)
  /-- The lock of the key is taken. -/
  | locks (request : ℕ)
  /-- The target exists. -/
  | finds (request : ℕ)
  /-- It does not: the temporary file is created. -/
  | creates (request : ℕ) (suffix : String)
  /-- Upstream sends a part of its 200. -/
  | receives (request : ℕ) (chunk : Body)
  /-- Its 200 is over. -/
  | ends (request : ℕ)
  | refused (request : ℕ) (error : FetchError)
  | stats (request : ℕ)
  | opens (request : ℕ)
  | reads (request n : ℕ)
  /-- The client is gone. -/
  | drops (request : ℕ)
  | kills (process : ℕ)

/-- `path.mkdir(parents=True, exist_ok=True)`, of some paths from the top; a file is in the way. -/
def mkdirs (nodes : Parts → Option Node) : List Parts → Option (Parts → Option Node)
  | [] => some nodes
  | path :: paths =>
    match nodes path with
    | none => mkdirs (Function.update nodes path (some .directory)) paths
    | some .directory => mkdirs nodes paths
    | some (.file _) => none

/-- The directories above a path. -/
def parents (path : Parts) : List Parts := (List.range' 1 (path.length - 1)).map path.take

section Semantics

variable (requests : ℕ → MirrorRequest) (directorySize : ℕ)

namespace Mirror

def setPhase (s : Mirror) (request : ℕ) (phase : MirrorPhase) : Mirror :=
  { s with phase := Function.update s.phase request phase }

/-- The entry of the target of a request. -/
def entry (s : Mirror) (request : ℕ) : Option Node := s.nodes (requests request).target

def setHolder (s : Mirror) (request : ℕ) (holder : Option ℕ) : Mirror :=
  { s with
    holder := Function.update s.holder (requests request).process
      (Function.update (s.holder (requests request).process) (requests request).target holder) }

/-- The temporary file, open. -/
def create (s : Mirror) (nodes : Parts → Option Node) (request : ℕ) (temp : Parts) : Mirror :=
  { s with
    nodes := Function.update nodes temp (some (.file s.inodes))
    contents := Function.update s.contents s.inodes []
    inodes := s.inodes + 1
    writer := Function.update s.writer s.inodes (some request) }

/-- The temporary file is closed, and its name is gone. -/
def unlink (s : Mirror) (temp : Parts) (inode : ℕ) : Mirror :=
  { s with
    nodes := Function.update s.nodes temp none
    writer := Function.update s.writer inode none }

/-- `os.replace`, where the target is no directory. -/
def replace (s : Mirror) (request : ℕ) (temp : Parts) (inode : ℕ) (received : Body) : Mirror :=
  { s.unlink temp inode with
    nodes := Function.update (Function.update s.nodes temp none) (requests request).target
      (some (.file inode))
    downloads := ((requests request).process, (requests request).target, received) :: s.downloads }

/-- A process is gone: its requests, its locks and the files that it has open. -/
def kill (s : Mirror) (process : ℕ) : Mirror :=
  { s with
    phase := fun request ↦
      if (requests request).process = process then (s.phase request).cut else s.phase request
    writer := fun inode ↦ (s.writer inode).filter fun request ↦ (requests request).process ≠ process
    holder := Function.update s.holder process fun _ ↦ none
    killed := Function.update s.killed process true }

/-- What an event does, or nothing if it cannot happen. -/
def step (s : Mirror) : MirrorEvent → Option Mirror
  | .arrives request =>
    if s.phase request = .outside ∧ s.killed (requests request).process = false then
      if (requests request).path = "/healthz" then some (s.setPhase request (.answered (.text 200 "ok\n")))
      else if (requests request).key = none then
        some (s.setPhase request
          (.answered (.text 400 ("unsupported mirror path: " ++ (requests request).shown))))
      else some (s.setPhase request .waits)
    else none
  | .locks request =>
    if s.phase request = .waits ∧
        s.holder (requests request).process (requests request).target = none then
      some ((s.setHolder requests request (some request)).setPhase request .checks)
    else none
  | .finds request =>
    if s.phase request = .checks ∧ s.entry requests request ≠ none then
      some ((s.setHolder requests request none).setPhase request .sends)
    else none
  | .creates request suffix =>
    if s.phase request = .checks ∧ s.entry requests request = none ∧ suffix.length = 8 ∧
        suffix.toList.all isTempChar then
      match mkdirs s.nodes (parents (requests request).target) with
      | none => some ((s.setHolder requests request none).setPhase request (.answered .nothing))
      | some nodes =>
        if nodes (tempPath (requests request).target suffix) = none then
          some ((s.create nodes request (tempPath (requests request).target suffix)).setPhase request
            (.fetches (tempPath (requests request).target suffix) s.inodes []))
        else none
    else none
  | .receives request chunk =>
    match s.phase request with
    | .fetches temp inode received =>
      some ({ s with contents := Function.update s.contents inode (s.contents inode ++ chunk) }.setPhase
        request (.fetches temp inode (received ++ chunk)))
    | _ => none
  | .ends request =>
    match s.phase request with
    | .fetches temp inode received =>
      if s.entry requests request = some .directory then
        some (((s.unlink temp inode).setHolder requests request none).setPhase request (.answered .nothing))
      else
        some (((s.replace requests request temp inode received).setHolder requests request none).setPhase
          request .sends)
    | _ => none
  | .refused request error =>
    match s.phase request with
    | .fetches temp inode _ =>
      some (((s.unlink temp inode).setHolder requests request none).setPhase request (.answered error.answer))
    | _ => none
  | .stats request =>
    if s.phase request = .sends then
      match s.entry requests request with
      | none => some (s.setPhase request (.answered .nothing))
      | some .directory => some (s.setPhase request (.headed directorySize))
      | some (.file inode) => some (s.setPhase request (.headed (s.contents inode).length))
    else none
  | .opens request =>
    match s.phase request with
    | .headed length =>
      match s.entry requests request with
      | some (.file inode) => some (s.setPhase request (.streams length inode []))
      | _ => some (s.setPhase request (.answered (.file length [] false)))
    | _ => none
  | .reads request n =>
    match s.phase request with
    | .streams length inode sent =>
      if (s.contents inode).drop sent.length = [] then
        some (s.setPhase request (.answered (.file length sent true)))
      else
        some (s.setPhase request (.streams length inode
          (sent ++ ((s.contents inode).drop sent.length).take n)))
    | _ => none
  | .drops request =>
    match s.phase request with
    | .sends | .headed _ | .streams .. => some (s.setPhase request (s.phase request).cut)
    | _ => none
  | .kills process =>
    some (s.kill requests process)

end Mirror

end Semantics

/-! ## Names -/

theorem not_mem_of_mem_splitOn {α : Type} [BEq α] [LawfulBEq α] {separator : α} {text part : List α}
    (h : part ∈ text.splitOn separator) : separator ∉ part := by
  induction text generalizing part with
  | nil =>
    rw [List.splitOn_nil, List.mem_singleton] at h
    simp [h]
  | cons c text ih =>
    rw [List.splitOn_cons_eq_if_modifyHead] at h
    obtain ⟨first, rest, hsplit⟩ := List.exists_cons_of_ne_nil (List.splitOn_ne_nil separator text)
    rw [hsplit] at h ih
    split at h
    · rcases List.mem_cons.mp h with rfl | h
      · exact List.not_mem_nil
      · exact ih h
    · next hc =>
      rw [List.modifyHead_cons, List.mem_cons] at h
      rcases h with rfl | h
      · rw [List.mem_cons, not_or]
        exact ⟨fun heq ↦ hc (beq_iff_eq.mpr heq.symm), ih List.mem_cons_self⟩
      · exact ih (List.mem_cons_of_mem _ h)

/-- The parts of a key are names, so a target is below the directory. -/
theorem isName_of_cacheKey {rawPath : String} {key : Parts} (h : cacheKey rawPath = some key) :
    key = parts rawPath ∧ ∀ part ∈ parts rawPath, IsName part := by
  rw [cacheKey, Option.ite_none_left_eq_some] at h
  obtain ⟨hparts, h⟩ := h
  rw [not_or, not_or] at hparts
  refine ⟨(Option.some.inj h).symm, fun part hpart ↦ ⟨?_, ?_, ?_, ?_⟩⟩
  · exact fun heq ↦ hparts.2.1 (heq ▸ hpart)
  · exact fun heq ↦ hparts.2.2 (heq ▸ hpart)
  all_goals
    obtain ⟨text, htext, rfl⟩ := List.mem_map.mp hpart
    obtain ⟨hsplit, hne⟩ := List.mem_filter.mp htext
  · exact fun heq ↦ of_decide_eq_true hne (String.ofList_eq_empty_iff.mp heq)
  · rw [String.toList_ofList]
    exact not_mem_of_mem_splitOn hsplit

theorem isName_tempPath {target : Parts} {suffix : String} (htarget : ∀ part ∈ target, IsName part)
    (hsuffix : suffix.toList.all isTempChar = true) (hlength : suffix.length = 8) :
    ∀ part ∈ tempPath target suffix, IsName part := by
  intro part hpart
  rcases List.mem_append.mp hpart with hpart | hpart
  · exact htarget part (List.dropLast_subset _ hpart)
  · rw [List.mem_singleton] at hpart
    have hlong : 10 ≤ part.length := by
      rw [hpart]
      simp only [String.length_append, hlength]
      have hdot : ".".length = 1 := by decide
      omega
    have hlast : '/' ∉ (target.getLastD "").toList := by
      cases target using List.reverseRecOn with
      | nil => decide
      | append_singleton target part =>
        rw [List.getLastD_concat]
        exact (htarget part (List.mem_append_right _ List.mem_cons_self)).2.2.2
    refine ⟨?_, ?_, ?_, ?_⟩
    · rintro rfl
      exact absurd hlong (by decide)
    · rintro rfl
      exact absurd hlong (by decide)
    · rintro rfl
      exact absurd hlong (by decide)
    · intro hslash
      rw [hpart, String.toList_append, String.toList_append, String.toList_append] at hslash
      simp only [List.mem_append] at hslash
      rcases hslash with ((hslash | hslash) | hslash) | hslash
      · exact absurd hslash (by decide)
      · exact hlast hslash
      · exact absurd hslash (by decide)
      · exact absurd (List.all_eq_true.mp hsuffix _ hslash) (by decide)

/-- The directories that are created. -/
theorem mkdirs_spec {nodes nodes' : Parts → Option Node} {paths : List Parts}
    (h : mkdirs nodes paths = some nodes') (path : Parts) :
    nodes' path = nodes path ∨ nodes path = none ∧ nodes' path = some .directory ∧ path ∈ paths := by
  induction paths generalizing nodes with
  | nil =>
    cases h
    exact Or.inl rfl
  | cons first paths ih =>
    rw [mkdirs] at h
    split at h
    · next hnone =>
      by_cases heq : path = first
      · subst heq
        rcases ih h with hsame | ⟨hold, -⟩
        · rw [Function.update_self] at hsame
          exact Or.inr ⟨hnone, hsame, List.mem_cons_self⟩
        · rw [Function.update_self] at hold
          cases hold
      · rcases ih h with hsame | ⟨hold, hnew, hmem⟩
        · rw [Function.update_of_ne heq] at hsame
          exact Or.inl hsame
        · rw [Function.update_of_ne heq] at hold
          exact Or.inr ⟨hold, hnew, List.mem_cons_of_mem _ hmem⟩
    · exact (ih h).imp_right fun hnew ↦ ⟨hnew.1, hnew.2.1, List.mem_cons_of_mem _ hnew.2.2⟩
    · cases h

/-! ## The invariant -/

/-- What an event brings to a request. -/
def MirrorEvent.chunk (request : ℕ) : MirrorEvent → Body
  | .receives request' chunk => if request' = request then chunk else []
  | _ => []

/-- What upstream sent to a request. -/
def received (events : List MirrorEvent) (request : ℕ) : Body := events.flatMap (·.chunk request)

theorem received_snoc (events : List MirrorEvent) (event : MirrorEvent) (request : ℕ) :
    received (events ++ [event]) request = received events request ++ event.chunk request := by
  rw [received, List.flatMap_append, List.flatMap_singleton, received]

section Invariant

variable (requests : ℕ → MirrorRequest) (events : List MirrorEvent) (s : Mirror)

/-- A body of the key of a request was downloaded. -/
def Stored (request : ℕ) (body : Body) : Prop :=
  ∃ process, (process, (requests request).target, body) ∈ s.downloads

/-- A file that a target may be. -/
structure Settled (request inode : ℕ) : Prop where
  made : inode < s.inodes
  writer : s.writer inode = none
  stored : Stored requests s request (s.contents inode)

/-- What holds of an answer. -/
def AnswerInv (request : ℕ) : MirrorAnswer → Prop
  | .file length sent complete => sent = [] ∧ complete = false ∨
      (∃ body, Stored requests s request body ∧ body.length = length) ∧
        ∃ body, Stored requests s request body ∧ sent <+: body ∧ (complete = true → sent = body)
  | _ => True

/-- A download that is under way. -/
structure Fetching (request : ℕ) (temp : Parts) (inode : ℕ) (body : Body) : Prop where
  received_eq : body = received events request
  node : s.nodes temp = some (.file inode)
  contents : s.contents inode = body
  made : inode < s.inodes
  writer : s.writer inode = some request
  /-- Nobody asks for a temporary file. -/
  hidden : ∀ request', (requests request').target ≠ temp
  first : ∀ body, ((requests request).process, (requests request).target, body) ∉ s.downloads

/-- What holds of a request by its phase. -/
def PhaseInv (request : ℕ) : MirrorPhase → Prop
  | .outside => received events request = []
  | .waits => received events request = [] ∧ (requests request).key ≠ none
  | .checks => received events request = [] ∧ (requests request).key ≠ none ∧
      s.holder (requests request).process (requests request).target = some request
  | .fetches temp inode body => Fetching requests events s request temp inode body ∧
      (requests request).key ≠ none ∧
      s.holder (requests request).process (requests request).target = some request
  | .sends => True
  | .headed length => s.entry requests request = some .directory ∨
      ∃ body, Stored requests s request body ∧ body.length = length
  | .streams length inode sent => Settled requests s request inode ∧ sent <+: s.contents inode ∧
      ∃ body, Stored requests s request body ∧ body.length = length
  | .answered answer => AnswerInv requests s request answer

/-- A request has no download before it, or under way. -/
def MirrorPhase.past : MirrorPhase → Bool
  | .sends | .headed _ | .streams .. | .answered _ => true
  | _ => false

/-- **The invariant.** -/
structure Mirrored : Prop where
  phases : ∀ request, PhaseInv requests events s request (s.phase request)
  /-- The file of a target is complete. -/
  files : ∀ request inode, s.entry requests request = some (.file inode) →
    Settled requests s request inode
  kept : ∀ process target body, (process, target, body) ∈ s.downloads →
    ∃ inode, s.nodes target = some (.file inode)
  once : (s.downloads.map fun download ↦ (download.1, download.2.1)).Nodup
  /-- A download is what upstream sent to a request, to its end. -/
  source : ∀ process target body, (process, target, body) ∈ s.downloads →
    ∃ request, (requests request).process = process ∧ (requests request).target = target ∧
      .ends request ∈ events ∧ received events request = body ∧ (s.phase request).past = true
  confined : ∀ path node, s.nodes path = some node → ∀ part ∈ path, IsName part

end Invariant

section Frame

variable {requests : ℕ → MirrorRequest} {events : List MirrorEvent} {event : MirrorEvent}
  {s s' : Mirror} {request : ℕ}

/-- What no step changes. -/
structure Shares (s s' : Mirror) : Prop where
  directory : ∀ path, s.nodes path = some .directory → s'.nodes path = some .directory
  made : s.inodes ≤ s'.inodes
  settled : ∀ inode, inode < s.inodes → s.writer inode = none →
    s'.contents inode = s.contents inode ∧ s'.writer inode = none
  downloads : s.downloads ⊆ s'.downloads

/-- What a step leaves to a request that it is not about. -/
structure Leaves (requests : ℕ → MirrorRequest) (s s' : Mirror) (request : ℕ) : Prop extends
    Shares s s' where
  temp : ∀ temp inode, s.nodes temp = some (.file inode) → inode < s.inodes →
    s.writer inode = some request → (∀ request', (requests request').target ≠ temp) →
    s'.nodes temp = some (.file inode)
  written : ∀ inode, inode < s.inodes → s.writer inode = some request →
    s'.contents inode = s.contents inode ∧ s'.writer inode = some request
  holder : s.holder (requests request).process (requests request).target = some request →
    s'.holder (requests request).process (requests request).target = some request
  first : s.holder (requests request).process (requests request).target = some request → ∀ body,
    ((requests request).process, (requests request).target, body) ∈ s'.downloads →
      ((requests request).process, (requests request).target, body) ∈ s.downloads

theorem Shares.trans {s'' : Mirror} (h : Shares s s') (h' : Shares s' s'') : Shares s s'' where
  directory path hpath := h'.directory path (h.directory path hpath)
  made := Nat.le_trans h.made h'.made
  settled inode hmade hwriter := by
    obtain ⟨hcontents, hwriter'⟩ := h.settled inode hmade hwriter
    obtain ⟨hcontents', hwriter''⟩ := h'.settled inode (Nat.lt_of_lt_of_le hmade h.made) hwriter'
    exact ⟨hcontents'.trans hcontents, hwriter''⟩
  downloads := List.Subset.trans h.downloads h'.downloads

theorem Leaves.trans {s'' : Mirror} (h : Leaves requests s s' request)
    (h' : Leaves requests s' s'' request) : Leaves requests s s'' request where
  toShares := h.toShares.trans h'.toShares
  temp temp inode hnode hmade hwriter hhidden :=
    h'.temp temp inode (h.temp temp inode hnode hmade hwriter hhidden) (Nat.lt_of_lt_of_le hmade h.made)
      (h.written inode hmade hwriter).2 hhidden
  written inode hmade hwriter := by
    obtain ⟨hcontents, hwriter'⟩ := h.written inode hmade hwriter
    obtain ⟨hcontents', hwriter''⟩ := h'.written inode (Nat.lt_of_lt_of_le hmade h.made) hwriter'
    exact ⟨hcontents'.trans hcontents, hwriter''⟩
  holder hholder := h'.holder (h.holder hholder)
  first hholder body hmem := h.first hholder body (h'.first (h.holder hholder) body hmem)

theorem shares_setPhase (phase : MirrorPhase) : Shares s (s.setPhase request phase) :=
  ⟨fun _ h ↦ h, Nat.le_refl _, fun _ _ h ↦ ⟨rfl, h⟩, List.Subset.refl _⟩

theorem leaves_setPhase (phase : MirrorPhase) {other : ℕ} :
    Leaves requests s (s.setPhase request phase) other :=
  ⟨shares_setPhase phase, fun _ _ h _ _ _ ↦ h, fun _ _ h ↦ ⟨rfl, h⟩, id, fun _ _ h ↦ h⟩

theorem shares_setHolder (holder : Option ℕ) : Shares s (s.setHolder requests request holder) :=
  ⟨fun _ h ↦ h, Nat.le_refl _, fun _ _ h ↦ ⟨rfl, h⟩, List.Subset.refl _⟩

/-- A lock that nobody else has is taken, or given back. -/
theorem leaves_setHolder (holder : Option ℕ) {other : ℕ}
    (hheld : s.holder (requests request).process (requests request).target ≠ some other) :
    Leaves requests s (s.setHolder requests request holder) other := by
  refine ⟨shares_setHolder holder, fun _ _ h _ _ _ ↦ h, fun _ _ h ↦ ⟨rfl, h⟩, fun hholder ↦ ?_,
    fun _ _ h ↦ h⟩
  dsimp only [Mirror.setHolder]
  by_cases hprocess : (requests other).process = (requests request).process
  · by_cases htarget : (requests other).target = (requests request).target
    · rw [hprocess, htarget] at hholder
      exact absurd hholder hheld
    · rw [hprocess, Function.update_self, Function.update_of_ne htarget, ← hprocess]
      exact hholder
  · rw [Function.update_of_ne hprocess]
    exact hholder

theorem shares_create {nodes : Parts → Option Node} {paths : List Parts} {temp : Parts}
    (hnodes : mkdirs s.nodes paths = some nodes) (htemp : nodes temp = none) :
    Shares s (s.create nodes request temp) where
  directory path hpath := by
    have hkept : nodes path = some .directory := by
      rcases mkdirs_spec hnodes path with hsame | ⟨hnone, -⟩
      · exact hsame.trans hpath
      · rw [hpath] at hnone
        cases hnone
    have hne : path ≠ temp := by
      rintro rfl
      rw [hkept] at htemp
      cases htemp
    exact (Function.update_of_ne hne ..).trans hkept
  made := Nat.le_succ _
  settled inode hmade hwriter :=
    ⟨Function.update_of_ne (Nat.ne_of_lt hmade) .., (Function.update_of_ne (Nat.ne_of_lt hmade) ..).trans hwriter⟩
  downloads := List.Subset.refl _

/-- A temporary file is created, and the directories above. -/
theorem leaves_create {nodes : Parts → Option Node} {paths : List Parts} {temp : Parts} {other : ℕ}
    (hnodes : mkdirs s.nodes paths = some nodes) (htemp : nodes temp = none) :
    Leaves requests s (s.create nodes request temp) other where
  toShares := shares_create hnodes htemp
  temp path inode hpath _ _ _ := by
    have hkept : nodes path = some (.file inode) := by
      rcases mkdirs_spec hnodes path with hsame | ⟨hnone, -⟩
      · exact hsame.trans hpath
      · rw [hpath] at hnone
        cases hnone
    have hne : path ≠ temp := by
      rintro rfl
      rw [hkept] at htemp
      cases htemp
    exact (Function.update_of_ne hne ..).trans hkept
  written inode hmade hwriter :=
    ⟨Function.update_of_ne (Nat.ne_of_lt hmade) .., (Function.update_of_ne (Nat.ne_of_lt hmade) ..).trans hwriter⟩
  holder := id
  first _ _ h := h

theorem shares_unlink {temp : Parts} {inode : ℕ} (hnode : s.nodes temp = some (.file inode))
    (hwriter : s.writer inode = some request) : Shares s (s.unlink temp inode) where
  directory path hpath := by
    have hne : path ≠ temp := by
      rintro rfl
      rw [hpath] at hnode
      cases hnode
    exact (Function.update_of_ne hne ..).trans hpath
  made := Nat.le_refl _
  settled inode' _ hwriter' := by
    have hne : inode' ≠ inode := by
      rintro rfl
      rw [hwriter'] at hwriter
      cases hwriter
    exact ⟨rfl, (Function.update_of_ne hne ..).trans hwriter'⟩
  downloads := List.Subset.refl _

/-- The temporary file of another request is gone. -/
theorem leaves_unlink {temp : Parts} {inode other : ℕ} (hnode : s.nodes temp = some (.file inode))
    (hwriter : s.writer inode = some request) (hne : other ≠ request) :
    Leaves requests s (s.unlink temp inode) other := by
  have hinode {inode' : ℕ} (hwriter' : s.writer inode' = some other) : inode' ≠ inode := by
    rintro rfl
    exact hne (Option.some.inj (hwriter'.symm.trans hwriter))
  refine ⟨shares_unlink hnode hwriter, fun path inode' hpath _ hwriter' _ ↦ ?_,
    fun inode' _ hwriter' ↦ ⟨rfl, ?_⟩, id, fun _ _ h ↦ h⟩
  · have hpath' : path ≠ temp := by
      rintro rfl
      rw [hpath] at hnode
      exact hinode hwriter' (Node.file.inj (Option.some.inj hnode))
    exact (Function.update_of_ne hpath' ..).trans hpath
  · exact (Function.update_of_ne (hinode hwriter') ..).trans hwriter'

theorem Stored.leaves {body : Body} (h : Stored requests s request body)
    (hdownloads : s.downloads ⊆ s'.downloads) : Stored requests s' request body :=
  h.imp fun _ hmem ↦ hdownloads hmem

theorem Settled.leaves {inode : ℕ} (h : Settled requests s request inode) (hshares : Shares s s') :
    Settled requests s' request inode ∧ s'.contents inode = s.contents inode := by
  obtain ⟨hcontents, hwriter⟩ := hshares.settled inode h.made h.writer
  refine ⟨⟨Nat.lt_of_lt_of_le h.made hshares.made, hwriter, ?_⟩, hcontents⟩
  rw [hcontents]
  exact h.stored.leaves hshares.downloads

theorem AnswerInv.leaves {answer : MirrorAnswer} (h : AnswerInv requests s request answer)
    (hdownloads : s.downloads ⊆ s'.downloads) : AnswerInv requests s' request answer := by
  cases answer with
  | text status body => trivial
  | nothing => trivial
  | file length sent complete =>
    refine h.imp id ?_
    rintro ⟨⟨body, hbody, hlength⟩, body', hbody', hsent⟩
    exact ⟨⟨body, hbody.leaves hdownloads, hlength⟩, body', hbody'.leaves hdownloads, hsent⟩

theorem PhaseInv.leaves {phase : MirrorPhase} (h : PhaseInv requests events s request phase)
    (hleaves : Leaves requests s s' request) (hchunk : event.chunk request = []) :
    PhaseInv requests (events ++ [event]) s' request phase := by
  have hreceived : received (events ++ [event]) request = received events request := by
    rw [received_snoc, hchunk, List.append_nil]
  cases phase with
  | outside => exact hreceived.trans h
  | waits => exact ⟨hreceived.trans h.1, h.2⟩
  | checks => exact ⟨hreceived.trans h.1, h.2.1, hleaves.holder h.2.2⟩
  | fetches temp inode body =>
    obtain ⟨hfetching, hkey, hholder⟩ := h
    obtain ⟨hcontents, hwriter⟩ := hleaves.written inode hfetching.made hfetching.writer
    refine ⟨⟨hfetching.received_eq.trans hreceived.symm, ?_, hcontents.trans hfetching.contents,
      Nat.lt_of_lt_of_le hfetching.made hleaves.made, hwriter, hfetching.hidden, ?_⟩, hkey,
      hleaves.holder hholder⟩
    · exact hleaves.temp temp inode hfetching.node hfetching.made hfetching.writer hfetching.hidden
    · exact fun body hmem ↦ hfetching.first body (hleaves.first hholder body hmem)
  | sends => trivial
  | headed length =>
    refine h.imp (hleaves.directory _) ?_
    exact fun ⟨body, hbody, hlength⟩ ↦ ⟨body, hbody.leaves hleaves.downloads, hlength⟩
  | streams length inode sent =>
    obtain ⟨hsettled, hsent, body, hbody, hlength⟩ := h
    obtain ⟨hsettled', hcontents⟩ := hsettled.leaves hleaves.toShares
    exact ⟨hsettled', hcontents ▸ hsent, body, hbody.leaves hleaves.downloads, hlength⟩
  | answered answer => exact AnswerInv.leaves h hleaves.downloads

/-- What is cut off is as well. -/
theorem PhaseInv.cut {phase : MirrorPhase} (h : PhaseInv requests events s request phase) :
    PhaseInv requests events s request phase.cut := by
  cases phase with
  | headed length => exact Or.inl ⟨rfl, rfl⟩
  | streams length inode sent =>
    obtain ⟨hsettled, hsent, hlength⟩ := h
    exact Or.inr ⟨hlength, s.contents inode, hsettled.stored, hsent, fun h ↦ nomatch h⟩
  | answered answer => exact h
  | outside => trivial
  | waits => trivial
  | checks => trivial
  | fetches temp inode body => trivial
  | sends => trivial

end Frame

section Steps

variable {requests : ℕ → MirrorRequest} {directorySize : ℕ} {events : List MirrorEvent}
  {event : MirrorEvent} {s s' : Mirror} {request : ℕ}

theorem mirrored_start : Mirrored requests [] {} where
  phases _ := rfl
  files _ _ h := nomatch h
  kept _ _ _ h := nomatch h
  once := List.nodup_nil
  source _ _ _ h := nomatch h
  confined _ _ h := nomatch h

/-- The requests that downloads are from, after an event of a request. -/
theorem Mirrored.source_snoc (h : Mirrored requests events s) {phase : MirrorPhase}
    (hphase : s'.phase = Function.update s.phase request phase)
    (hchunk : ∀ other, other ≠ request → event.chunk other = [])
    (hpast : (s.phase request).past = true → phase.past = true ∧ event.chunk request = [])
    {process : ℕ} {target : Parts} {body : Body} (hmem : (process, target, body) ∈ s.downloads) :
    ∃ source, (requests source).process = process ∧ (requests source).target = target ∧
      .ends source ∈ events ++ [event] ∧ received (events ++ [event]) source = body ∧
      (s'.phase source).past = true := by
  obtain ⟨source, hprocess, htarget, hends, hreceived, hover⟩ := h.source process target body hmem
  refine ⟨source, hprocess, htarget, List.mem_append_left _ hends, ?_⟩
  rw [received_snoc, hreceived, hphase]
  by_cases heq : source = request
  · subst heq
    obtain ⟨hphase', hempty⟩ := hpast hover
    rw [hempty, List.append_nil, Function.update_self]
    exact ⟨rfl, hphase'⟩
  · rw [hchunk source heq, List.append_nil, Function.update_of_ne heq]
    exact ⟨rfl, hover⟩

/-- **The rule of an event of a request** that downloads nothing. -/
theorem Mirrored.act (h : Mirrored requests events s) {phase : MirrorPhase}
    (hphase : s'.phase = Function.update s.phase request phase)
    (hchunk : ∀ other, other ≠ request → event.chunk other = [])
    (hpast : (s.phase request).past = true → phase.past = true ∧ event.chunk request = [])
    (hshares : Shares s s') (hleaves : ∀ other, other ≠ request → Leaves requests s s' other)
    (hdownloads : s'.downloads = s.downloads)
    (hentry : ∀ other inode, s'.entry requests other = some (.file inode) ↔
      s.entry requests other = some (.file inode))
    (hconfined : ∀ path node, s'.nodes path = some node → ∀ part ∈ path, IsName part)
    (hown : PhaseInv requests (events ++ [event]) s' request phase) :
    Mirrored requests (events ++ [event]) s' where
  phases other := by
    rw [hphase]
    by_cases heq : other = request
    · subst heq
      rwa [Function.update_self]
    · rw [Function.update_of_ne heq]
      exact (h.phases other).leaves (hleaves other heq) (hchunk other heq)
  files other inode hnode := ((h.files other inode ((hentry other inode).mp hnode)).leaves hshares).1
  kept process target body hmem := by
    rw [hdownloads] at hmem
    obtain ⟨inode, hnode⟩ := h.kept process target body hmem
    obtain ⟨source, -, rfl, -⟩ := h.source process target body hmem
    exact ⟨inode, (hentry source inode).mpr hnode⟩
  once := hdownloads ▸ h.once
  source process target body hmem := h.source_snoc hphase hchunk hpast (hdownloads ▸ hmem)
  confined := hconfined

/-- An event that only changes where a request is. -/
theorem Mirrored.move (h : Mirrored requests events s) {phase : MirrorPhase}
    (hchunk : ∀ other, event.chunk other = [])
    (hpast : (s.phase request).past = true → phase.past = true)
    (hown : PhaseInv requests events s request phase) :
    Mirrored requests (events ++ [event]) (s.setPhase request phase) :=
  h.act rfl (fun other _ ↦ hchunk other) (fun hover ↦ ⟨hpast hover, hchunk request⟩)
    (shares_setPhase phase) (fun _ _ ↦ leaves_setPhase phase) rfl (fun _ _ ↦ Iff.rfl) h.confined
    (hown.leaves (leaves_setPhase phase) (hchunk request))

/-- The phases with the lock of a key. -/
def MirrorPhase.locked : MirrorPhase → Bool
  | .checks | .fetches .. => true
  | _ => false

theorem Mirrored.holder_of_locked (h : Mirrored requests events s)
    (hlocked : (s.phase request).locked = true) :
    s.holder (requests request).process (requests request).target = some request := by
  have hphase := h.phases request
  cases heq : s.phase request with
  | checks =>
    rw [heq] at hphase
    exact hphase.2.2
  | fetches temp inode body =>
    rw [heq] at hphase
    exact hphase.2.2
  | _ =>
    rw [heq] at hlocked
    cases hlocked

/-- The lock is given back. -/
theorem Mirrored.leaves_release (h : Mirrored requests events s)
    (hlocked : (s.phase request).locked = true) {other : ℕ} (hne : other ≠ request) :
    Leaves requests s (s.setHolder requests request none) other := by
  refine leaves_setHolder none ?_
  rw [h.holder_of_locked hlocked]
  exact fun heq ↦ hne (Option.some.inj heq).symm

/-- The lock is given back, and nothing else happens. -/
theorem Mirrored.release (h : Mirrored requests events s) {phase : MirrorPhase}
    (hlocked : (s.phase request).locked = true) (hchunk : ∀ other, event.chunk other = [])
    (hown : PhaseInv requests (events ++ [event])
      ((s.setHolder requests request none).setPhase request phase) request phase)
    (hover : phase.past = true) :
    Mirrored requests (events ++ [event]) ((s.setHolder requests request none).setPhase request phase) :=
  h.act rfl (fun other _ ↦ hchunk other) (fun _ ↦ ⟨hover, hchunk request⟩)
    ((shares_setHolder none).trans (shares_setPhase phase))
    (fun _ hne ↦ (h.leaves_release hlocked hne).trans (leaves_setPhase phase)) rfl
    (fun _ _ ↦ Iff.rfl) h.confined hown

/-- A download is given up. -/
theorem Mirrored.abandon (h : Mirrored requests events s) {temp : Parts} {inode : ℕ} {body : Body}
    (hfetches : s.phase request = .fetches temp inode body) (hchunk : ∀ other, event.chunk other = [])
    {answer : MirrorAnswer} (hanswer : AnswerInv requests s request answer) :
    Mirrored requests (events ++ [event])
      (((s.unlink temp inode).setHolder requests request none).setPhase request (.answered answer)) := by
  have hphase := h.phases request
  rw [hfetches] at hphase
  obtain ⟨hfetching, -, hholder⟩ := hphase
  have hshares : Shares s (s.unlink temp inode) := shares_unlink hfetching.node hfetching.writer
  refine h.act rfl (fun other _ ↦ hchunk other) (fun _ ↦ ⟨rfl, hchunk request⟩)
    ((hshares.trans (shares_setHolder none)).trans (shares_setPhase _)) (fun other hne ↦ ?_) rfl
    (fun other inode' ↦ ?_) (fun path node hnode ↦ ?_) hanswer
  · refine ((leaves_unlink hfetching.node hfetching.writer hne).trans
      (leaves_setHolder none fun heq ↦ hne ?_)).trans (leaves_setPhase _)
    exact Option.some.inj (heq.symm.trans hholder)
  · exact Iff.of_eq (congrArg (· = some (Node.file inode'))
      (Function.update_of_ne (hfetching.hidden other) ..))
  · by_cases heq : path = temp
    · subst heq
      exact absurd ((Function.update_self ..).symm.trans hnode) nofun
    · exact h.confined path node ((Function.update_of_ne heq ..).symm.trans hnode)

/-- The lock is taken. -/
theorem Mirrored.lock (h : Mirrored requests events s) (hwaits : s.phase request = .waits)
    (hfree : s.holder (requests request).process (requests request).target = none)
    (hchunk : ∀ other, event.chunk other = []) :
    Mirrored requests (events ++ [event])
      ((s.setHolder requests request (some request)).setPhase request .checks) := by
  have hphase := h.phases request
  rw [hwaits] at hphase
  obtain ⟨hreceived, hkey⟩ := hphase
  refine h.act rfl (fun other _ ↦ hchunk other) (fun hover ↦ ?_)
    ((shares_setHolder _).trans (shares_setPhase _)) (fun other _ ↦ ?_) rfl (fun _ _ ↦ Iff.rfl) h.confined
    ⟨?_, hkey, ?_⟩
  · rw [hwaits] at hover
    cases hover
  · refine (leaves_setHolder _ ?_).trans (leaves_setPhase _)
    rw [hfree]
    exact nofun
  · rw [received_snoc, hreceived, hchunk]
    rfl
  · dsimp only [Mirror.setPhase, Mirror.setHolder]
    rw [Function.update_self, Function.update_self]

/-- A temporary file is created. -/
theorem Mirrored.create (h : Mirrored requests events s) {suffix : String}
    {nodes : Parts → Option Node} (hchecks : s.phase request = .checks)
    (hnone : s.entry requests request = none) (hlength : suffix.length = 8)
    (hchars : suffix.toList.all isTempChar = true)
    (hnodes : mkdirs s.nodes (parents (requests request).target) = some nodes)
    (hfresh : nodes (tempPath (requests request).target suffix) = none)
    (hhidden : ∀ other, (requests other).target ≠ tempPath (requests request).target suffix)
    (hchunk : ∀ other, event.chunk other = []) :
    Mirrored requests (events ++ [event])
      ((s.create nodes request (tempPath (requests request).target suffix)).setPhase request
        (.fetches (tempPath (requests request).target suffix) s.inodes [])) := by
  have hphase := h.phases request
  rw [hchecks] at hphase
  obtain ⟨hreceived, hkey, hholder⟩ := hphase
  obtain ⟨key, hkey'⟩ := Option.ne_none_iff_exists'.mp hkey
  have hnames := (isName_of_cacheKey hkey').2
  have hshares : Shares s (s.create nodes request (tempPath (requests request).target suffix)) :=
    shares_create hnodes hfresh
  refine h.act rfl (fun other _ ↦ hchunk other) (fun hover ↦ ?_) (hshares.trans (shares_setPhase _))
    (fun other _ ↦ (leaves_create hnodes hfresh).trans (leaves_setPhase _)) rfl (fun other inode ↦ ?_)
    (fun path node hnode ↦ ?_) ⟨⟨?_, Function.update_self .., Function.update_self .., Nat.lt_succ_self _,
      Function.update_self .., hhidden, fun body hmem ↦ ?_⟩, hkey, hholder⟩
  · rw [hchecks] at hover
    cases hover
  · dsimp only [Mirror.entry, Mirror.setPhase, Mirror.create]
    rw [Function.update_of_ne (hhidden other)]
    rcases mkdirs_spec hnodes (requests other).target with hsame | ⟨hold, hnew, -⟩
    · rw [hsame]
    · rw [hold, hnew]
      exact ⟨nofun, nofun⟩
  · dsimp only [Mirror.setPhase, Mirror.create] at hnode
    by_cases heq : path = tempPath (requests request).target suffix
    · subst heq
      exact isName_tempPath hnames hchars hlength
    · rw [Function.update_of_ne heq] at hnode
      rcases mkdirs_spec hnodes path with hsame | ⟨-, -, hmem⟩
      · exact h.confined path node (hsame.symm.trans hnode)
      · obtain ⟨n, -, rfl⟩ := List.mem_map.mp hmem
        exact fun part hpart ↦ hnames part (List.mem_of_mem_take hpart)
  · rw [received_snoc, hreceived, hchunk]
    rfl
  · obtain ⟨inode, hinode⟩ := h.kept _ _ body hmem
    rw [Mirror.entry] at hnone
    rw [hnone] at hinode
    cases hinode

/-- A part of a download arrives. -/
theorem Mirrored.receive (h : Mirrored requests events s) {temp : Parts} {inode : ℕ} {body chunk : Body}
    (hfetches : s.phase request = .fetches temp inode body) :
    Mirrored requests (events ++ [.receives request chunk])
      ({ s with contents := Function.update s.contents inode (s.contents inode ++ chunk) }.setPhase
        request (.fetches temp inode (body ++ chunk))) := by
  have hphase := h.phases request
  rw [hfetches] at hphase
  obtain ⟨hfetching, hkey, hholder⟩ := hphase
  have hcontents {inode' : ℕ} (hwriter : s.writer inode' ≠ some request) :
      Function.update s.contents inode (s.contents inode ++ chunk) inode' = s.contents inode' := by
    refine Function.update_of_ne ?_ ..
    rintro rfl
    exact hwriter hfetching.writer
  have hshares : Shares s
      { s with contents := Function.update s.contents inode (s.contents inode ++ chunk) } := by
    refine ⟨fun _ h ↦ h, Nat.le_refl _, fun inode' _ hwriter ↦ ⟨hcontents ?_, hwriter⟩,
      List.Subset.refl _⟩
    rw [hwriter]
    exact nofun
  refine h.act rfl (fun other hne ↦ if_neg hne.symm) (fun hover ↦ ?_)
    (hshares.trans (shares_setPhase _)) (fun other hne ↦ ?_) rfl (fun _ _ ↦ Iff.rfl) h.confined
    ⟨⟨?_, hfetching.node, ?_, hfetching.made, hfetching.writer, hfetching.hidden, hfetching.first⟩, hkey,
      hholder⟩
  · rw [hfetches] at hover
    cases hover
  · refine Leaves.trans ⟨hshares, fun _ _ h _ _ _ ↦ h, fun inode' _ hwriter ↦ ⟨hcontents ?_, hwriter⟩, id,
      fun _ _ h ↦ h⟩ (leaves_setPhase _)
    rw [hwriter]
    exact fun heq ↦ hne (Option.some.inj heq)
  · rw [received_snoc, hfetching.received_eq]
    exact congrArg (received events request ++ ·) (if_pos rfl).symm
  · dsimp only [Mirror.setPhase]
    rw [Function.update_self, hfetching.contents]

/-- What is left of the entries when a target is replaced. -/
theorem entries_replace {temp : Parts} {inode : ℕ} (body : Body) (path : Parts) :
    (s.replace requests request temp inode body).nodes path =
      if path = (requests request).target then some (.file inode)
      else if path = temp then none else s.nodes path := by
  dsimp only [Mirror.replace]
  by_cases htarget : path = (requests request).target
  · subst htarget
    rw [Function.update_self, if_pos rfl]
  · rw [Function.update_of_ne htarget, if_neg htarget]
    by_cases htemp : path = temp
    · subst htemp
      rw [Function.update_self, if_pos rfl]
    · rw [Function.update_of_ne htemp, if_neg htemp]

theorem shares_replace {temp : Parts} {inode : ℕ} {body : Body}
    (hnode : s.nodes temp = some (.file inode)) (hwriter : s.writer inode = some request)
    (htarget : s.entry requests request ≠ some .directory) :
    Shares s (s.replace requests request temp inode body) where
  directory path hpath := by
    rw [entries_replace, if_neg, if_neg]
    · exact hpath
    · rintro rfl
      rw [hpath] at hnode
      cases hnode
    · rintro rfl
      exact htarget hpath
  made := Nat.le_refl _
  settled := (shares_unlink hnode hwriter).settled
  downloads := List.subset_cons_self ..

/-- The temporary file of another request replaces its target. -/
theorem leaves_replace {temp : Parts} {inode other : ℕ} {body : Body}
    (hnode : s.nodes temp = some (.file inode)) (hwriter : s.writer inode = some request)
    (htarget : s.entry requests request ≠ some .directory)
    (hholder : s.holder (requests request).process (requests request).target = some request)
    (hne : other ≠ request) : Leaves requests s (s.replace requests request temp inode body) other where
  toShares := shares_replace hnode hwriter htarget
  temp path inode' hpath hmade hwriter' hhidden := by
    have hunlink : Leaves requests s (s.unlink temp inode) other := leaves_unlink hnode hwriter hne
    exact (Function.update_of_ne (hhidden request).symm ..).trans
      (hunlink.temp path inode' hpath hmade hwriter' hhidden)
  written := by
    have hunlink : Leaves requests s (s.unlink temp inode) other := leaves_unlink hnode hwriter hne
    exact hunlink.written
  holder := id
  first hother body' hmem := by
    rcases List.mem_cons.mp hmem with heq | hmem
    · obtain ⟨hprocess, hpair⟩ := Prod.mk.inj heq
      rw [hprocess, (Prod.mk.inj hpair).1, hholder] at hother
      exact absurd (Option.some.inj hother).symm hne
    · exact hmem

/-- **A download is complete.** -/
theorem Mirrored.complete (h : Mirrored requests events s) {temp : Parts} {inode : ℕ} {body : Body}
    (hfetches : s.phase request = .fetches temp inode body)
    (htarget : s.entry requests request ≠ some .directory) :
    Mirrored requests (events ++ [.ends request])
      (((s.replace requests request temp inode body).setHolder requests request none).setPhase request
        .sends) := by
  have hphase := h.phases request
  rw [hfetches] at hphase
  obtain ⟨hfetching, hkey, hholder⟩ := hphase
  have hpast : (s.phase request).past = true →
      MirrorPhase.sends.past = true ∧ (MirrorEvent.ends request).chunk request = [] := fun _ ↦ ⟨rfl, rfl⟩
  have hshares : Shares s (((s.replace requests request temp inode body).setHolder requests request
      none).setPhase request .sends) :=
    (shares_replace hfetching.node hfetching.writer htarget).trans
      ((shares_setHolder none).trans (shares_setPhase _))
  have hnodes (path : Parts) : (((s.replace requests request temp inode body).setHolder requests request
      none).setPhase request .sends).nodes path = if path = (requests request).target then
        some (.file inode) else if path = temp then none else s.nodes path := entries_replace body path
  refine ⟨fun other ↦ ?_, fun other inode' hentry ↦ ?_, fun process target body' hmem ↦ ?_,
    List.nodup_cons.mpr ⟨fun hmem ↦ ?_, h.once⟩, fun process target body' hmem ↦ ?_,
    fun path node hnode ↦ ?_⟩
  · dsimp only [Mirror.setPhase]
    by_cases heq : other = request
    · subst heq
      rw [Function.update_self]
      trivial
    · rw [Function.update_of_ne heq]
      refine (h.phases other).leaves (((leaves_replace hfetching.node hfetching.writer htarget hholder
        heq).trans (leaves_setHolder none fun hheld ↦ heq ?_)).trans (leaves_setPhase _)) rfl
      exact Option.some.inj (hheld.symm.trans hholder)
  · rw [Mirror.entry, hnodes] at hentry
    split at hentry
    · next heq =>
      obtain rfl := Node.file.inj (Option.some.inj hentry)
      refine ⟨hfetching.made, Function.update_self .., (requests request).process,
        List.mem_cons.mpr (Or.inl ?_)⟩
      rw [heq]
      exact congrArg (fun body ↦ ((requests request).process, (requests request).target, body))
        hfetching.contents
    · rw [if_neg (hfetching.hidden other)] at hentry
      exact ((h.files other inode' hentry).leaves hshares).1
  · rcases List.mem_cons.mp hmem with heq | hmem
    · exact ⟨inode, by rw [hnodes, if_pos (Prod.mk.inj (Prod.mk.inj heq).2).1]⟩
    · obtain ⟨inode', hinode⟩ := h.kept process target body' hmem
      obtain ⟨source, -, rfl, -⟩ := h.source process target body' hmem
      rw [hnodes, if_neg (hfetching.hidden source)]
      split
      · exact ⟨inode, rfl⟩
      · exact ⟨inode', hinode⟩
  · obtain ⟨⟨process, target, body'⟩, hmem, heq⟩ := List.mem_map.mp hmem
    obtain ⟨rfl, rfl⟩ := Prod.mk.inj heq
    exact hfetching.first body' hmem
  · rcases List.mem_cons.mp hmem with heq | hmem
    · obtain ⟨rfl, hpair⟩ := Prod.mk.inj heq
      obtain ⟨rfl, rfl⟩ := Prod.mk.inj hpair
      refine ⟨request, rfl, rfl, List.mem_append_right _ List.mem_cons_self, ?_, ?_⟩
      · rw [received_snoc, hfetching.received_eq]
        exact List.append_nil _
      · dsimp only [Mirror.setPhase]
        rw [Function.update_self]
        rfl
    · exact h.source_snoc rfl (fun _ _ ↦ rfl) hpast hmem
  · rw [hnodes] at hnode
    split at hnode
    · next heq =>
      obtain ⟨key, hkey'⟩ := Option.ne_none_iff_exists'.mp hkey
      rw [heq]
      exact (isName_of_cacheKey hkey').2
    · split at hnode
      · cases hnode
      · exact h.confined path node hnode

theorem shares_kill (process : ℕ) : Shares s (s.kill requests process) := by
  refine ⟨fun _ h ↦ h, Nat.le_refl _, fun inode _ hwriter ↦ ⟨rfl, ?_⟩, List.Subset.refl _⟩
  dsimp only [Mirror.kill]
  rw [hwriter]
  rfl

theorem leaves_kill {process other : ℕ} (hne : (requests other).process ≠ process) :
    Leaves requests s (s.kill requests process) other := by
  refine ⟨shares_kill process, fun _ _ h _ _ _ ↦ h, fun inode _ hwriter ↦ ⟨rfl, ?_⟩, fun hholder ↦ ?_,
    fun _ _ h ↦ h⟩
  · dsimp only [Mirror.kill]
    rw [hwriter, Option.filter_some, if_pos (decide_eq_true hne)]
  · dsimp only [Mirror.kill]
    rw [Function.update_of_ne hne]
    exact hholder

theorem cut_eq_answered (phase : MirrorPhase) : ∃ answer, phase.cut = .answered answer := by
  cases phase <;> exact ⟨_, rfl⟩

/-- What a process leaves behind when it is killed. -/
theorem Mirrored.kill (h : Mirrored requests events s) (process : ℕ) :
    Mirrored requests (events ++ [.kills process]) (s.kill requests process) := by
  have hphase (other : ℕ) : (s.kill requests process).phase other =
      if (requests other).process = process then (s.phase other).cut else s.phase other := rfl
  refine ⟨fun other ↦ ?_, fun other inode hentry ↦ ((h.files other inode hentry).leaves
    (shares_kill process)).1, h.kept, h.once, fun process' target body hmem ↦ ?_, h.confined⟩
  · rw [hphase]
    split
    · have hcut := (h.phases other).cut
      obtain ⟨answer, hanswer⟩ := cut_eq_answered (s.phase other)
      rw [hanswer] at hcut ⊢
      exact AnswerInv.leaves hcut (shares_kill process).downloads
    · next hne => exact (h.phases other).leaves (leaves_kill hne) rfl
  · obtain ⟨source, hprocess, htarget, hends, hreceived, hover⟩ := h.source process' target body hmem
    refine ⟨source, hprocess, htarget, List.mem_append_left _ hends, ?_, ?_⟩
    · rw [received_snoc, hreceived]
      exact List.append_nil _
    · rw [hphase]
      split
      · obtain ⟨answer, hanswer⟩ := cut_eq_answered (s.phase source)
        rw [hanswer]
        rfl
      · exact hover

/-- **Every event keeps the invariant**, if nobody asks for a temporary file. -/
theorem Mirrored.step (h : Mirrored requests events s)
    (hhidden : ∀ creator suffix, event = .creates creator suffix →
      ∀ other, (requests other).target ≠ tempPath (requests creator).target suffix)
    (hstep : s.step requests directorySize event = some s') :
    Mirrored requests (events ++ [event]) s' := by
  cases event with
  | arrives request =>
    rw [Mirror.step, Option.ite_none_right_eq_some] at hstep
    obtain ⟨⟨houtside, -⟩, hstep⟩ := hstep
    have hphase := h.phases request
    rw [houtside] at hphase
    have hpast {p : Prop} (hover : (s.phase request).past = true) : p := by
      rw [houtside] at hover
      cases hover
    split at hstep
    · cases hstep
      exact h.move (fun _ ↦ rfl) hpast trivial
    · split at hstep
      · cases hstep
        exact h.move (fun _ ↦ rfl) hpast trivial
      · next hkey =>
        cases hstep
        exact h.move (fun _ ↦ rfl) hpast ⟨hphase, hkey⟩
  | locks request =>
    rw [Mirror.step, Option.ite_none_right_eq_some] at hstep
    obtain ⟨⟨hwaits, hfree⟩, hstep⟩ := hstep
    cases hstep
    exact h.lock hwaits hfree fun _ ↦ rfl
  | finds request =>
    rw [Mirror.step, Option.ite_none_right_eq_some] at hstep
    obtain ⟨⟨hchecks, -⟩, hstep⟩ := hstep
    cases hstep
    exact h.release (congrArg MirrorPhase.locked hchecks) (fun _ ↦ rfl) trivial rfl
  | creates request suffix =>
    rw [Mirror.step, Option.ite_none_right_eq_some] at hstep
    obtain ⟨⟨hchecks, hnone, hlength, hchars⟩, hstep⟩ := hstep
    split at hstep
    · cases hstep
      exact h.release (congrArg MirrorPhase.locked hchecks) (fun _ ↦ rfl) trivial rfl
    · next nodes hnodes =>
      rw [Option.ite_none_right_eq_some] at hstep
      obtain ⟨hfresh, hstep⟩ := hstep
      cases hstep
      exact h.create hchecks hnone hlength hchars hnodes hfresh (hhidden request suffix rfl) fun _ ↦ rfl
  | receives request chunk =>
    rw [Mirror.step] at hstep
    split at hstep
    · next temp inode body hfetches =>
      cases hstep
      exact h.receive hfetches
    · cases hstep
  | ends request =>
    rw [Mirror.step] at hstep
    split at hstep
    · next temp inode body hfetches =>
      split at hstep
      · cases hstep
        exact h.abandon hfetches (fun _ ↦ rfl) trivial
      · next htarget =>
        cases hstep
        exact h.complete hfetches htarget
    · cases hstep
  | refused request error =>
    rw [Mirror.step] at hstep
    split at hstep
    · next temp inode body hfetches =>
      cases hstep
      refine h.abandon hfetches (fun _ ↦ rfl) ?_
      cases error <;> trivial
    · cases hstep
  | stats request =>
    rw [Mirror.step, Option.ite_none_right_eq_some] at hstep
    obtain ⟨-, hstep⟩ := hstep
    split at hstep
    · cases hstep
      exact h.move (fun _ ↦ rfl) (fun _ ↦ rfl) trivial
    · next hentry =>
      cases hstep
      exact h.move (fun _ ↦ rfl) (fun _ ↦ rfl) (Or.inl hentry)
    · next inode hentry =>
      cases hstep
      exact h.move (fun _ ↦ rfl) (fun _ ↦ rfl) (Or.inr ⟨_, (h.files request inode hentry).stored, rfl⟩)
  | opens request =>
    rw [Mirror.step] at hstep
    split at hstep
    · next length hheaded =>
      have hphase := h.phases request
      rw [hheaded] at hphase
      split at hstep
      · next inode hentry =>
        cases hstep
        refine h.move (fun _ ↦ rfl) (fun _ ↦ rfl)
          ⟨h.files request inode hentry, List.nil_prefix, hphase.resolve_left fun hdirectory ↦ ?_⟩
        rw [hentry] at hdirectory
        cases hdirectory
      · cases hstep
        exact h.move (fun _ ↦ rfl) (fun _ ↦ rfl) (Or.inl ⟨rfl, rfl⟩)
    · cases hstep
  | reads request n =>
    rw [Mirror.step] at hstep
    split at hstep
    · next length inode sent hstreams =>
      have hphase := h.phases request
      rw [hstreams] at hphase
      obtain ⟨hsettled, hsent, hlength⟩ := hphase
      have hcontents : sent ++ (s.contents inode).drop sent.length = s.contents inode :=
        (List.prefix_iff_eq_append.mp hsent)
      split at hstep
      · next hall =>
        cases hstep
        rw [hall, List.append_nil] at hcontents
        exact h.move (fun _ ↦ rfl) (fun _ ↦ rfl)
          (Or.inr ⟨hlength, s.contents inode, hsettled.stored, hsent, fun _ ↦ hcontents⟩)
      · cases hstep
        refine h.move (fun _ ↦ rfl) (fun _ ↦ rfl) ⟨hsettled, ?_, hlength⟩
        conv_rhs => rw [← hcontents]
        exact List.prefix_append_right_inj _ |>.mpr (List.take_prefix ..)
    · cases hstep
  | drops request =>
    rw [Mirror.step] at hstep
    obtain ⟨answer, hanswer⟩ := cut_eq_answered (s.phase request)
    have hmove : Mirrored requests (events ++ [.drops request])
        (s.setPhase request (s.phase request).cut) :=
      h.move (fun _ ↦ rfl) (fun _ ↦ congrArg MirrorPhase.past hanswer) (h.phases request).cut
    split at hstep <;> cases hstep <;> exact hmove
  | kills process =>
    cases hstep
    exact h.kill process

end Steps

/-! ## What is served -/

section Served

variable (requests : ℕ → MirrorRequest) (directorySize : ℕ)

/-- What the mirror keeps of upstream, after some events. -/
structure Serves (events : List MirrorEvent) (s : Mirror) : Prop where
  /-- What a client is sent is the start of what upstream sent, to its end, for that key; all of it if the
  answer is complete. -/
  served : ∀ request length sent complete, s.phase request = .answered (.file length sent complete) →
    sent ≠ [] ∨ complete = true → ∃ source, (requests source).target = (requests request).target ∧
      .ends source ∈ events ∧ sent <+: received events source ∧
      (complete = true → sent = received events source)
  /-- Its `Content-Length` is right, unless processes downloaded bodies of different lengths. -/
  length : ∀ request length sent, s.phase request = .answered (.file length sent true) →
    (∀ body body', Stored requests s request body → Stored requests s request body' →
      body.length = body'.length) → length = sent.length
  /-- A process downloads a key once. -/
  once : ∀ process target body body', (process, target, body) ∈ s.downloads →
    (process, target, body') ∈ s.downloads → body = body'
  /-- One request of a process downloads a key at a time. -/
  alone : ∀ request request', (s.phase request).locked = true → (s.phase request').locked = true →
    (requests request).process = (requests request').process →
    (requests request).target = (requests request').target → request = request'
  /-- Nobody asks upstream for a key that was downloaded. -/
  cached : ∀ before after middle request suffix, events = before ++ .creates request suffix :: after →
    run (Mirror.step requests directorySize) {} before = some middle →
    ∀ body, ¬Stored requests middle request body
  /-- What was downloaded stays, complete. -/
  kept : ∀ process target body, (process, target, body) ∈ s.downloads →
    ∃ inode process', s.nodes target = some (.file inode) ∧ s.writer inode = none ∧
      (process', target, s.contents inode) ∈ s.downloads
  /-- Every file is below the directory. -/
  confined : ∀ path node, s.nodes path = some node → ∀ part ∈ path, IsName part

variable {requests} {directorySize} {events : List MirrorEvent} {s : Mirror}

theorem Mirrored.source_of_stored (h : Mirrored requests events s) {request : ℕ} {body : Body}
    (hbody : Stored requests s request body) : ∃ source,
      (requests source).target = (requests request).target ∧ .ends source ∈ events ∧
        received events source = body := by
  obtain ⟨process, hmem⟩ := hbody
  obtain ⟨source, -, htarget, hends, hreceived, -⟩ := h.source process _ body hmem
  exact ⟨source, htarget, hends, hreceived⟩

theorem Mirrored.served (h : Mirrored requests events s) {request length : ℕ} {sent : Body}
    {complete : Bool} (hover : s.phase request = .answered (.file length sent complete))
    (hsent : sent ≠ [] ∨ complete = true) : ∃ source,
      (requests source).target = (requests request).target ∧ .ends source ∈ events ∧
        sent <+: received events source ∧ (complete = true → sent = received events source) := by
  have hphase := h.phases request
  rw [hover] at hphase
  rcases hphase with ⟨hnil, hincomplete⟩ | ⟨-, body, hbody, hprefix, hall⟩
  · exact (hsent.elim (absurd hnil) fun hcomplete ↦ by rw [hcomplete] at hincomplete; cases hincomplete)
  · obtain ⟨source, htarget, hends, rfl⟩ := h.source_of_stored hbody
    exact ⟨source, htarget, hends, hprefix, hall⟩

theorem Mirrored.length (h : Mirrored requests events s) {request length : ℕ} {sent : Body}
    (hover : s.phase request = .answered (.file length sent true))
    (hlengths : ∀ body body', Stored requests s request body → Stored requests s request body' →
      body.length = body'.length) : length = sent.length := by
  have hphase := h.phases request
  rw [hover] at hphase
  rcases hphase with ⟨-, hincomplete⟩ | ⟨⟨body, hbody, hlength⟩, body', hbody', -, hall⟩
  · cases hincomplete
  · rw [← hlength, hall rfl]
    exact hlengths body body' hbody hbody'

theorem Mirrored.body_unique (h : Mirrored requests events s) {process : ℕ} {target : Parts}
    {body body' : Body} (hmem : (process, target, body) ∈ s.downloads)
    (hmem' : (process, target, body') ∈ s.downloads) : body = body' :=
  (Prod.mk.inj (Prod.mk.inj (List.inj_on_of_nodup_map h.once hmem hmem' rfl)).2).2

theorem Mirrored.alone (h : Mirrored requests events s) {request request' : ℕ}
    (hlocked : (s.phase request).locked = true) (hlocked' : (s.phase request').locked = true)
    (hprocess : (requests request).process = (requests request').process)
    (htarget : (requests request).target = (requests request').target) : request = request' := by
  have hholder := h.holder_of_locked hlocked
  rw [hprocess, htarget, h.holder_of_locked hlocked'] at hholder
  exact (Option.some.inj hholder).symm

end Served

/-- Two processes that are asked for one build; a fourth client asks for something else. -/
def asking (request : ℕ) : MirrorRequest where
  process := if request = 1 then 1 else 0
  shown := if request = 3 then "'/../passwd'" else "'/20240107/cpython.tar.gz'"
  path := if request = 3 then "/../passwd" else "/20240107/cpython.tar.gz"

/-- Both download it, and one is killed; the third client waits, and finds it. -/
def racing : List MirrorEvent :=
  [.arrives 0, .locks 0, .creates 0 "aaaaaaaa", .arrives 1, .locks 1, .creates 1 "bbbbbbbb", .arrives 2,
    .receives 0 [1], .receives 1 [1, 2], .receives 0 [2], .ends 0, .stats 0, .opens 0, .ends 1,
    .reads 0 1, .kills 1, .locks 2, .finds 2, .stats 2, .arrives 3, .reads 0 9, .reads 0 9, .opens 2,
    .reads 2 9, .reads 2 9]

end UvPythonMirror

end HarnessTraining
