import HarnessTraining.Library.Interning
import HarnessTraining.Rollout.Recording

/-!
# Deduplicated requests

The trace holds a message, or the tools of a request, in full the first time only.  A reader of its
rows resolves the references by their hashes.

* `readTrace` — the reader;
* `blobInterning` — how `_dedup_request_blob` interns a blob;
* `trace_lossless_iff` — when the reader gets every request back.
-/

set_option autoImplicit false

namespace HarnessTraining

open Python StateExcept TelemetrySink

/-! ## The reader -/

/-- `row["event"] == "completion_received"`. -/
def isCompletionRow (row : PyDict) : Bool :=
  match PyJson.get? (ofString "event") row with
  | some (.str text) => decide (text = ofString "completion_received")
  | _ => false

def shaOf? (row : PyDict) : Option Text :=
  match PyJson.get? (ofString "sha") row with
  | some (.str sha) => some sha
  | _ => none

def withoutSha (row : PyDict) : PyDict := row.filter fun member ↦ decide (member.1 ≠ ofString "sha")

/-- Resolve a blob by its hash; one with a new hash is written in full. -/
def readBlob (known : List (Text × PyDict)) (row : PyDict) :
    Option (PyDict × List (Text × PyDict)) := do
  let sha ← shaOf? row
  match known.lookup sha with
  | some blob => some (blob, known)
  | none => some (withoutSha row, (sha, withoutSha row) :: known)

def readBlobs : List (Text × PyDict) → List PyDict → Option (List PyDict × List (Text × PyDict))
  | known, [] => some ([], known)
  | known, row :: rows => do
    let (blob, known) ← readBlob known row
    let (blobs, known) ← readBlobs known rows
    some (blob :: blobs, known)

def dict? : PyJson → Option PyDict
  | .obj members => some members
  | _ => none

def dicts? : PyJson → Option (List PyDict)
  | .arr items => items.mapM dict?
  | _ => none

/-- The messages and the tools of a completion row. -/
def readRequest (known : List (Text × PyDict)) (row : PyDict) :
    Option ((List PyDict × PyJson) × List (Text × PyDict)) := do
  let (messages, known) ← readBlobs known (← dicts? (← PyJson.get? (ofString "request_messages") row))
  let (tools, known) ← readBlob known (← dict? (← PyJson.get? (ofString "request_tools") row))
  some ((messages, ← PyJson.get? (ofString "tools") tools), known)

/-- The requests of a trace, in order. -/
def readTrace : List (Text × PyDict) → List PyDict → Option (List (List PyDict × PyJson))
  | _, [] => some []
  | known, row :: rows =>
    if isCompletionRow row then do
      let (request, known) ← readRequest known row
      let requests ← readTrace known rows
      some (request :: requests)
    else readTrace known rows

/-! ## What was requested -/

/-- Equal up to the order of the keys. -/
def SameValue (value value' : PyJson) : Prop := PyJson.sortKeys value = PyJson.sortKeys value'

def SameBlob (blob blob' : PyDict) : Prop := SameValue (.obj blob) (.obj blob')

/-- The request that is read is the request that was sent. -/
def SameRequest (read : List PyDict × PyJson) (request : List PyDict × List PyDict) : Prop :=
  List.Forall₂ SameBlob read.1 request.1 ∧ SameValue read.2 (.arr (request.2.map .obj))

namespace Announcement

/-- The request of a completion. -/
def request? : Announcement → Option (List PyDict × List PyDict)
  | completionReceived requestMessages requestTools _ _ => some (requestMessages, requestTools)
  | _ => none

def completion? : Announcement → Option PyCompletion
  | completionReceived _ _ completion _ => some completion
  | _ => none

end Announcement

def requestsOf (announced : List (Announcement × Writing)) : List (List PyDict × List PyDict) :=
  announced.filterMap fun a ↦ a.1.request?

/-- The blobs of the requests. -/
def blobsOf (announced : List (Announcement × Writing)) : List PyDict :=
  (requestsOf announced).flatMap fun request ↦ request.1 ++ [toolsBlob request.2]

section Run

variable (sha256 decodeError : Text → Text)

/-- The hash that a blob is written with. -/
def shaOf (blob : PyDict) : Text :=
  (sha256 (PyJson.dumps .compact (PyJson.sortKeys (.obj blob)))).take 12

/-- No two blobs of a run share a truncated hash. -/
def CollisionFree (announced : List (Announcement × Writing)) : Prop :=
  ∀ blob ∈ blobsOf announced, ∀ blob' ∈ blobsOf announced,
    shaOf sha256 blob = shaOf sha256 blob' → SameBlob blob blob'

/-- The sink after a run of announcements. -/
def afterAll (telemetry : TelemetrySink) (announced : List (Announcement × Writing)) : TelemetrySink :=
  announced.foldl (fun telemetry a ↦ Announcement.leaves sha256 decodeError a telemetry) telemetry

/-- Everything but the arguments of the tool calls is fine, whenever a completion is announced. -/
def SafeRun : TelemetrySink → List (Announcement × Writing) → Prop
  | _, [] => True
  | telemetry, a :: announced =>
    (∀ completion ∈ a.1.completion?, ∀ request ∈ a.1.request?,
      completion.JsonSafe ∧ RequestSafe telemetry a.2 request.1 request.2) ∧
    SafeRun (Announcement.leaves sha256 decodeError a telemetry) announced

/-- How `_dedup_request_blob` interns a blob. -/
def blobInterning (refKeys : List String) : Interning PyDict PyDict Text where
  name := shaOf sha256
  full blob := fullBlob blob (shaOf sha256 blob)
  reference blob := blobReference refKeys blob (shaOf sha256 blob)
  nameOf := shaOf?
  content row := some (withoutSha row)
  nameOf_full blob := by rw [shaOf?, fullBlob, PyJson.get?_setItem, if_pos rfl]
  nameOf_reference blob := by rw [shaOf?, blobReference, PyJson.get?_setItem, if_pos rfl]

end Run

/-! ## A blob written and read -/

section Blobs

variable {sha256 : Text → Text} {refKeys : List String} {seen seen' : List Text} {blob row : PyDict}

theorem deduplicated_eq (h : deduplicated sha256 refKeys seen blob = some (row, seen')) :
    (blobInterning sha256 refKeys).write seen blob = (row, seen') := by
  obtain ⟨sha, hsha, h⟩ := Option.bind_eq_some_iff.mp h
  obtain ⟨text, htext, rfl⟩ := Option.map_eq_some_iff.mp hsha
  obtain rfl := (PyJson.dump_eq_some.mp htext).2
  have hname : (blobInterning sha256 refKeys).name blob = shaOf sha256 blob := rfl
  change (if shaOf sha256 blob ∈ seen then _ else _) = _ at h
  rw [Interning.write, hname]
  by_cases hseen : shaOf sha256 blob ∈ seen
  · rw [if_pos hseen] at h ⊢
    split at h
    · exact Option.some.inj h
    · cases h
  · rw [if_neg hseen] at h ⊢
    exact Option.some.inj h

theorem deduplicatedAll_eq : ∀ {blobs rows : List PyDict} {seen seen' : List Text},
    deduplicatedAll sha256 refKeys seen blobs = some (rows, seen') →
      (blobInterning sha256 refKeys).writeAll seen blobs = (rows, seen')
  | [], rows, seen, seen', h => by
    obtain ⟨rfl, rfl⟩ := Prod.mk.inj (Option.some.inj h)
    rfl
  | blob :: blobs, rows, seen, seen', h => by
    obtain ⟨⟨row, middle⟩, hrow, h⟩ := Option.bind_eq_some_iff.mp h
    obtain ⟨⟨rows', seen''⟩, hrows, h⟩ := Option.bind_eq_some_iff.mp h
    obtain ⟨rfl, rfl⟩ := Prod.mk.inj (Option.some.inj h)
    rw [Interning.writeAll, deduplicated_eq hrow, deduplicatedAll_eq hrows]

theorem readBlob_eq (known : List (Text × PyDict)) (row : PyDict) :
    (blobInterning sha256 refKeys).read known row = readBlob known row := by
  rw [Interning.read, readBlob]
  change (shaOf? row >>= _) = _
  cases shaOf? row with
  | none => rfl
  | some sha =>
    rw [Option.bind_eq_bind, Option.bind_some, Option.bind_some]
    cases known.lookup sha <;> rfl

theorem readBlobs_eq : ∀ (known : List (Text × PyDict)) (rows : List PyDict),
    (blobInterning sha256 refKeys).readAll known rows = readBlobs known rows
  | _, [] => rfl
  | known, row :: rows => by
    rw [Interning.readAll, readBlobs, readBlob_eq]
    cases readBlob known row with
    | none => rfl
    | some found =>
      rw [Option.bind_eq_bind, Option.bind_some, Option.bind_eq_bind, Option.bind_some]
      dsimp only
      rw [readBlobs_eq found.2 rows]

theorem withoutSha_fullBlob (h : ofString "sha" ∉ blob.map Prod.fst) (sha : Text) :
    withoutSha (fullBlob blob sha) = blob := by
  have hkept : blob.filter (fun member ↦ decide (member.1 ≠ ofString "sha")) = blob :=
    List.filter_eq_self.mpr fun member hmember ↦ decide_eq_true
      fun heq ↦ h (heq ▸ List.mem_map_of_mem hmember)
  rw [withoutSha, fullBlob, PyJson.setItem_fresh h, List.filter_append, hkept]
  simp

theorem toolsBlob_unmarked (requestTools : List PyDict) :
    ofString "sha" ∉ (toolsBlob requestTools).map Prod.fst := by
  have hne : ("sha" : String) ≠ "tools" := by decide
  have hkeys : (toolsBlob requestTools).map Prod.fst = [ofString "tools"] := by
    simp [toolsBlob, pyDict]
  rw [hkeys, List.mem_singleton]
  exact fun h ↦ hne (ofString_injective h)

/-- What is the same as the tools of a request has the tools under their key. -/
theorem tools_of_sameBlob {requestTools : List PyDict} (h : SameBlob blob (toolsBlob requestTools)) :
    ∃ tools, PyJson.get? (ofString "tools") blob = some tools ∧
      SameValue tools (.arr (requestTools.map .obj)) := by
  have hsorted : PyJson.sortKeys (.obj (toolsBlob requestTools)) =
      .obj [(ofString "tools", PyJson.sortKeys (.arr (requestTools.map .obj)))] := by
    simp [toolsBlob, pyDict, PyJson.sortKeys, PyJson.sortKeysOfMembers]
  have hperm := List.mergeSort_perm (PyJson.sortKeysOfMembers blob) fun member member' ↦
    decide (member.1.map CodePoint.toNat ≤ member'.1.map CodePoint.toNat)
  rw [SameBlob, SameValue, hsorted, PyJson.sortKeys] at h
  rw [PyJson.obj.inj h, List.singleton_perm, PyJson.sortKeysOfMembers_eq_map] at hperm
  obtain ⟨⟨key, tools⟩, rfl, hmember⟩ := List.map_eq_singleton_iff.mp hperm.symm
  obtain ⟨rfl, htools⟩ := Prod.mk.inj hmember
  exact ⟨tools, List.lookup_cons_self, htools⟩

end Blobs

/-! ## A request written and read -/

section Requests

variable {sha256 : Text → Text} {items : PyDict → Prop} {seen seen' : List Text}
  {known : List (Text × PyDict)} {requestMessages requestTools : List PyDict}

theorem isCompletionRow_row {row : PyDict} {name : String}
    (h : PyJson.get? (ofString "event") row = some (.str (ofString name))) :
    isCompletionRow row = decide (name = "completion_received") := by
  rw [isCompletionRow, h]
  exact decide_eq_decide.mpr ofString_injective.eq_iff

theorem dicts?_map_obj (rows : List PyDict) : dicts? (.arr (rows.map .obj)) = some rows := by
  rw [dicts?]
  induction rows with
  | nil => rfl
  | cons row rows ih => rw [List.map_cons, List.mapM_cons, ih]; rfl

theorem get?_pyDict (key : String) : ∀ members : List (String × PyJson),
    PyJson.get? (ofString key) (pyDict members) = members.lookup key
  | [] => rfl
  | member :: members => by
    have hkey : (ofString key == ofString member.1) = (key == member.1) := by
      rw [Bool.eq_iff_iff, beq_iff_eq, beq_iff_eq, ofString_injective.eq_iff]
    rw [PyJson.get?, pyDict, List.map_cons, List.lookup_cons, List.lookup_cons, hkey,
      ← get?_pyDict key members]
    rfl

/-- A row of a request is read as the request. -/
theorem readRequest_completionFields (hunmarked : ∀ blob, items blob → ofString "sha" ∉ blob.map Prod.fst)
    (hsame : ∀ blob blob', items blob → items blob' → shaOf sha256 blob = shaOf sha256 blob' →
      SameBlob blob blob')
    (hknows : Interning.Knows (shaOf sha256) items seen known)
    (hmessages : ∀ message ∈ requestMessages, items message) (htools : items (toolsBlob requestTools))
    {request : List PyDict × PyDict}
    (h : deduplicatedRequest sha256 seen requestMessages requestTools = some (request, seen'))
    (tSec : Decimal) (stepIndex attemptIndex : ℕ) (parsed : PyDict) (llmLatencySec : Decimal) :
    ∃ read known', readRequest known (TelemetrySink.row tSec "completion_received"
        (completionFields stepIndex attemptIndex request parsed llmLatencySec)) = some (read, known') ∧
      SameRequest read (requestMessages, requestTools) ∧
      Interning.Knows (shaOf sha256) items seen' known' := by
  obtain ⟨⟨messages, middle⟩, hwritten, h⟩ := Option.bind_eq_some_iff.mp h
  obtain ⟨⟨tools, seen''⟩, hwrittenTools, h⟩ := Option.bind_eq_some_iff.mp h
  obtain ⟨rfl, rfl⟩ := Prod.mk.inj (Option.some.inj h)
  have hcontent (refKeys : List String) (blob : PyDict) (hblob : items blob) :
      (blobInterning sha256 refKeys).content ((blobInterning sha256 refKeys).full blob) = some blob :=
    congrArg some (withoutSha_fullBlob (hunmarked blob hblob) _)
  obtain ⟨read, known', hread, hreadSame, hknows'⟩ := Interning.readAll_writeAll (hcontent ["role"])
    hsame hmessages hknows
  rw [deduplicatedAll_eq hwritten, readBlobs_eq] at hread
  rw [deduplicatedAll_eq hwritten] at hknows'
  obtain ⟨blob, known'', hreadTools, hsameTools, hknows''⟩ := Interning.read_write (hcontent [])
    hsame hknows' htools
  rw [deduplicated_eq hwrittenTools, readBlob_eq] at hreadTools
  rw [deduplicated_eq hwrittenTools] at hknows''
  obtain ⟨value, hvalue, hsameValue⟩ := tools_of_sameBlob hsameTools
  refine ⟨(read, value), known'', ?_, ⟨hreadSame, hsameValue⟩, hknows''⟩
  have hgetMessages : PyJson.get? (ofString "request_messages") (TelemetrySink.row tSec
      "completion_received" (completionFields stepIndex attemptIndex (messages, tools) parsed
        llmLatencySec)) = some (.arr (messages.map .obj)) := by
    rw [row_completionFields, get?_pyDict]
    rfl
  have hgetTools : PyJson.get? (ofString "request_tools") (TelemetrySink.row tSec
      "completion_received" (completionFields stepIndex attemptIndex (messages, tools) parsed
        llmLatencySec)) = some (.obj tools) := by
    rw [row_completionFields, get?_pyDict]
    rfl
  simp only [readRequest, hgetMessages, hgetTools, Option.bind_eq_bind, Option.bind_some,
    dicts?_map_obj, hread, dict?, hreadTools, hvalue]

end Requests

/-! ## A run written and read -/

section Runs

variable {sha256 decodeError : Text → Text} {announcement : Announcement} {writing : Writing}
  {telemetry : TelemetrySink} {announced : List (Announcement × Writing)}

/-- All literals of the calls of a completion are short. -/
def Announcement.ShortLiterals (announcement : Announcement) : Prop :=
  ∀ completion ∈ announcement.completion?, ∀ call ∈ completion.toolCalls, call.ShortLiterals

/-- The reader gets back every request of a run, in order. -/
def Lossless (sha256 decodeError : Text → Text) (announced : List (Announcement × Writing)) : Prop :=
  ∃ read, readTrace [] (afterAll sha256 decodeError {} announced).trace = some read ∧
    List.Forall₂ SameRequest read (requestsOf announced)

/-- An announcement is one of a completion or not. -/
theorem Announcement.completion_or_not : (announcement.request? = none ∧ announcement.completion? = none) ∨
    ∃ requestMessages requestTools completion llmLatencySec,
      announcement = .completionReceived requestMessages requestTools completion llmLatencySec := by
  cases announcement with
  | completionReceived requestMessages requestTools completion llmLatencySec =>
    exact Or.inr ⟨requestMessages, requestTools, completion, llmLatencySec, rfl⟩
  | _ => exact Or.inl ⟨rfl, rfl⟩

/-- An announcement adds no row of a completion, unless it is one of a completion. -/
theorem leaves_other (sha256 decodeError : Text → Text) (writing : Writing) (telemetry : TelemetrySink)
    (h : announcement.request? = none) :
    (Announcement.leaves sha256 decodeError (announcement, writing) telemetry).seenRequestShas =
        telemetry.seenRequestShas ∧
      ∃ rows, (Announcement.leaves sha256 decodeError (announcement, writing) telemetry).trace =
        telemetry.trace ++ rows ∧ ∀ row ∈ rows, isCompletionRow row = false := by
  have hother : ∀ messages tools completion latency,
      announcement ≠ .completionReceived messages tools completion latency := by
    rintro _ _ _ _ rfl
    cases h
  refine ⟨(Announcement.frames_seenRequestShas sha256 decodeError writing announcement hother).run
    telemetry, ?_⟩
  rcases announcement.leaves_trace sha256 decodeError writing telemetry with
    htrace | ⟨row, htrace, hevent, hknown⟩
  · exact ⟨[], by rw [htrace, List.append_nil], List.forall_mem_nil _⟩
  · refine ⟨[row], htrace, List.forall_mem_singleton.mpr ?_⟩
    rw [isCompletionRow_row hevent]
    refine decide_eq_false fun hname ↦ ?_
    cases announcement with
    | completionReceived => cases h
    | policyEvent name error fields =>
      obtain rfl : name = "completion_received" := hname
      exact absurd (hknown _ _ _ rfl) (by decide)
    | completionRejected error => simp [Announcement.eventName] at hname
    | noValidActionStep stepIndex => simp [Announcement.eventName] at hname
    | stepCompleted stepIndex callIndex stepResult terminal => simp [Announcement.eventName] at hname

section Completion

variable {requestMessages requestTools : List PyDict} {completion : PyCompletion}
  (llmLatencySec : Decimal)

/-- A completion with short literals adds its row. -/
theorem leaves_completion (hsafe : completion.JsonSafe)
    (hrequest : RequestSafe telemetry writing requestMessages requestTools)
    (hshort : ∀ call ∈ completion.toolCalls, call.ShortLiterals) :
    ∃ request parsed, deduplicatedRequest sha256 telemetry.seenRequestShas requestMessages requestTools =
        some (request, (Announcement.leaves sha256 decodeError (.completionReceived requestMessages
          requestTools completion llmLatencySec, writing) telemetry).seenRequestShas) ∧
      (Announcement.leaves sha256 decodeError (.completionReceived requestMessages requestTools
        completion llmLatencySec, writing) telemetry).trace = telemetry.trace ++
          [TelemetrySink.row writing.tSec "completion_received" (completionFields
            (telemetry.stepsTaken + 1) telemetry.pendingCompletions request parsed llmLatencySec)] := by
  have hreturns := (@returns_iff_shortLiterals sha256 decodeError writing requestMessages requestTools
    completion llmLatencySec telemetry hsafe hrequest).mpr hshort
  obtain ⟨request, seen, parsed, hwritten, hparsed, hdisk, hwritable, -⟩ :=
    returns_onCompletionReceived.mp hreturns
  obtain ⟨⟨⟩, telemetry', hexec, htelemetry⟩ := exec_of_returns (returns_onCompletionReceived
    (Q := fun _ telemetry' ↦ telemetry' = _) |>.mpr
      ⟨request, seen, parsed, hwritten, hparsed, hdisk, hwritable, rfl⟩)
  refine ⟨request, parsed, ?_⟩
  rw [Announcement.leaves, Announcement.record, hexec, htelemetry]
  exact ⟨hwritten, rfl⟩

/-- A completion with a long literal adds no row. -/
theorem leaves_lost (hsafe : completion.JsonSafe)
    (hrequest : RequestSafe telemetry writing requestMessages requestTools)
    (hlong : ¬∀ call ∈ completion.toolCalls, call.ShortLiterals) :
    (Announcement.leaves sha256 decodeError (.completionReceived requestMessages requestTools completion
      llmLatencySec, writing) telemetry).trace = telemetry.trace := by
  obtain ⟨text, telemetry', hexec, -⟩ := complete_raises sha256 decodeError fun hreturns ↦
    hlong ((@returns_iff_shortLiterals sha256 decodeError writing requestMessages requestTools
      completion llmLatencySec telemetry hsafe hrequest).mp hreturns)
  have hframe : telemetry'.trace = telemetry.trace := wp_error (E := fun _ left ↦
    left.trace = telemetry.trace) (Announcement.writes sha256 decodeError writing (.completionReceived
      requestMessages requestTools completion llmLatencySec) telemetry) hexec
  rw [Announcement.leaves, Announcement.record, hexec]
  exact hframe

end Completion

theorem readTrace_append {rows : List PyDict} (h : ∀ row ∈ rows, isCompletionRow row = false)
    (known : List (Text × PyDict)) (rows' : List PyDict) :
    readTrace known (rows ++ rows') = readTrace known rows' := by
  induction rows with
  | nil => rfl
  | cons row rows ih =>
    obtain ⟨hrow, hrows⟩ := List.forall_mem_cons.mp h
    rw [List.cons_append, readTrace, hrow, if_neg Bool.false_ne_true, ih hrows]

theorem afterAll_cons (a : Announcement × Writing) : afterAll sha256 decodeError telemetry (a :: announced) =
    afterAll sha256 decodeError (Announcement.leaves sha256 decodeError a telemetry) announced := rfl

theorem requestsOf_other (h : announcement.request? = none) :
    requestsOf ((announcement, writing) :: announced) = requestsOf announced :=
  List.filterMap_cons_none h

/-- The run lemma: a reader who knows what the writer has seen gets the requests of the rest. -/
theorem readTrace_afterAll {items : PyDict → Prop}
    (hunmarked : ∀ blob, items blob → ofString "sha" ∉ blob.map Prod.fst)
    (hsame : ∀ blob blob', items blob → items blob' → shaOf sha256 blob = shaOf sha256 blob' →
      SameBlob blob blob') :
    ∀ {announced : List (Announcement × Writing)} {telemetry : TelemetrySink}
      {known : List (Text × PyDict)}, SafeRun sha256 decodeError telemetry announced →
      (∀ blob ∈ blobsOf announced, items blob) → (∀ a ∈ announced, a.1.ShortLiterals) →
      Interning.Knows (shaOf sha256) items telemetry.seenRequestShas known →
        ∃ rows read, (afterAll sha256 decodeError telemetry announced).trace = telemetry.trace ++ rows ∧
          readTrace known rows = some read ∧ List.Forall₂ SameRequest read (requestsOf announced)
  | [], telemetry, known, _, _, _, _ => ⟨[], [], (List.append_nil _).symm, rfl, .nil⟩
  | (announcement, writing) :: announced, telemetry, known, hsafe, hitems, hshort, hknows => by
    obtain ⟨hfirst, hsafe⟩ := hsafe
    obtain ⟨hshortFirst, hshortRest⟩ := List.forall_mem_cons.mp hshort
    rcases announcement.completion_or_not with
      ⟨hrequest, -⟩ | ⟨requestMessages, requestTools, completion, llmLatencySec, rfl⟩
    · obtain ⟨hseen, others, htrace, hothers⟩ := leaves_other sha256 decodeError writing telemetry
        hrequest
      rw [blobsOf, requestsOf_other hrequest] at hitems
      rw [← hseen] at hknows
      obtain ⟨rows, read, hrows, hread, hsameAll⟩ := readTrace_afterAll hunmarked hsame hsafe hitems
        hshortRest hknows
      refine ⟨others ++ rows, read, ?_, ?_, ?_⟩
      · rw [afterAll_cons, hrows, htrace, List.append_assoc]
      · rw [readTrace_append hothers, hread]
      · rw [requestsOf_other hrequest]
        exact hsameAll
    · obtain ⟨hcompletion, hrequest⟩ := hfirst completion rfl (requestMessages, requestTools) rfl
      obtain ⟨request, parsed, hwritten, htrace⟩ := @leaves_completion sha256 decodeError writing telemetry
        requestMessages requestTools completion llmLatencySec hcompletion hrequest
        (hshortFirst completion rfl)
      obtain ⟨hitemsFirst, hitems⟩ := List.forall_mem_append.mp hitems
      obtain ⟨hmessages, htools⟩ := List.forall_mem_append.mp hitemsFirst
      obtain ⟨first, known', hreadFirst, hsameFirst, hknows'⟩ := readRequest_completionFields hunmarked
        hsame hknows hmessages (List.forall_mem_singleton.mp htools) hwritten writing.tSec
        (telemetry.stepsTaken + 1) telemetry.pendingCompletions parsed llmLatencySec
      obtain ⟨rows, read, hrows, hread, hsameAll⟩ := readTrace_afterAll hunmarked hsame hsafe hitems
        hshortRest hknows'
      refine ⟨TelemetrySink.row writing.tSec "completion_received" (completionFields
        (telemetry.stepsTaken + 1) telemetry.pendingCompletions request parsed llmLatencySec) :: rows,
        first :: read, ?_, ?_, .cons hsameFirst hsameAll⟩
      · rw [afterAll_cons, hrows, htrace, List.append_assoc, List.singleton_append]
      · rw [readTrace, isCompletionRow_row (get?_row _ _ _), decide_eq_true rfl, if_pos rfl, hreadFirst,
          Option.bind_eq_bind, Option.bind_some]
        dsimp only
        rw [hread]
        rfl

theorem length_of_readTrace : ∀ {rows : List PyDict} {known : List (Text × PyDict)}
    {read : List (List PyDict × PyJson)}, readTrace known rows = some read →
      read.length = rows.countP isCompletionRow
  | [], known, read, h => by
    obtain rfl := Option.some.inj h
    rfl
  | row :: rows, known, read, h => by
    rw [readTrace] at h
    split at h
    · next hrow =>
      obtain ⟨⟨request, known'⟩, -, h⟩ := Option.bind_eq_some_iff.mp h
      obtain ⟨requests, hrequests, h⟩ := Option.bind_eq_some_iff.mp h
      obtain rfl := Option.some.inj h
      rw [List.countP_cons_of_pos hrow, List.length_cons, length_of_readTrace hrequests]
    · next hrow => rw [List.countP_cons_of_neg hrow, length_of_readTrace h]

theorem requestsOf_cons (a : Announcement × Writing) :
    requestsOf (a :: announced) = requestsOf [a] ++ requestsOf announced :=
  List.filterMap_append (l := [a])

/-- An announcement adds a row of a completion for its request, or fewer if a literal is long. -/
theorem countP_leaves {a : Announcement × Writing} (hsafe : SafeRun sha256 decodeError telemetry [a]) :
    (Announcement.leaves sha256 decodeError a telemetry).trace.countP isCompletionRow ≤
        telemetry.trace.countP isCompletionRow + (requestsOf [a]).length ∧
      ((Announcement.leaves sha256 decodeError a telemetry).trace.countP isCompletionRow =
        telemetry.trace.countP isCompletionRow + (requestsOf [a]).length → a.1.ShortLiterals) := by
  obtain ⟨announcement, writing⟩ := a
  obtain ⟨hfirst, -⟩ := hsafe
  rcases announcement.completion_or_not with
    ⟨hrequest, hcompletion⟩ | ⟨requestMessages, requestTools, completion, llmLatencySec, rfl⟩
  · obtain ⟨-, others, htrace, hothers⟩ := leaves_other sha256 decodeError writing telemetry hrequest
    have hnone : others.countP isCompletionRow = 0 :=
      List.countP_eq_zero.mpr fun row hrow ↦ by simp [hothers row hrow]
    rw [htrace, List.countP_append, hnone]
    refine ⟨Nat.add_le_add_left (Nat.zero_le _) _, fun _ completion hmem ↦ ?_⟩
    rw [hcompletion] at hmem
    cases hmem
  · obtain ⟨hcompletion, hrequest⟩ := hfirst completion rfl (requestMessages, requestTools) rfl
    by_cases hshort : ∀ call ∈ completion.toolCalls, call.ShortLiterals
    · obtain ⟨request, parsed, -, htrace⟩ := @leaves_completion sha256 decodeError writing telemetry
        requestMessages requestTools completion llmLatencySec hcompletion hrequest hshort
      rw [htrace, List.countP_append]
      refine ⟨Nat.add_le_add_left List.countP_le_length _, fun _ completion' hmem ↦ ?_⟩
      obtain rfl := Option.some.inj hmem
      exact hshort
    · rw [@leaves_lost sha256 decodeError writing telemetry requestMessages requestTools completion
        llmLatencySec hcompletion hrequest hshort]
      exact ⟨Nat.le_add_right _ _, fun h ↦ absurd h (Nat.ne_add_one _)⟩

/-- There are as many rows of completions as requests only if no literal is long. -/
theorem countP_afterAll : ∀ {announced : List (Announcement × Writing)} {telemetry : TelemetrySink},
    SafeRun sha256 decodeError telemetry announced →
      (afterAll sha256 decodeError telemetry announced).trace.countP isCompletionRow ≤
        telemetry.trace.countP isCompletionRow + (requestsOf announced).length ∧
      ((afterAll sha256 decodeError telemetry announced).trace.countP isCompletionRow =
        telemetry.trace.countP isCompletionRow + (requestsOf announced).length →
          ∀ a ∈ announced, a.1.ShortLiterals)
  | [], telemetry, _ => ⟨le_rfl, fun _ ↦ List.forall_mem_nil _⟩
  | a :: announced, telemetry, ⟨hfirst, hsafe⟩ => by
    obtain ⟨hle, hall⟩ := countP_afterAll hsafe
    obtain ⟨hleFirst, hshort⟩ := @countP_leaves sha256 decodeError telemetry a ⟨hfirst, trivial⟩
    rw [afterAll_cons, requestsOf_cons, List.length_append, List.forall_mem_cons]
    exact ⟨by omega, fun h ↦ ⟨hshort (by omega), hall (by omega)⟩⟩

theorem knows_initial (sha256 : Text → Text) (items : PyDict → Prop) :
    Interning.Knows (shaOf sha256) items ({} : TelemetrySink).seenRequestShas [] :=
  Interning.knows_nil _ _

end Runs

/-! ## Two runs -/

/-- A run of one completion without a request. -/
def runOf (arguments : Text) : List (Announcement × Writing) :=
  [(.completionReceived [] [] (replyOf arguments) .zero, ⟨.zero, .ok ()⟩)]

theorem safeRun_runOf (arguments : Text) : SafeRun noToolsDigest id {} (runOf arguments) :=
  ⟨fun completion hcompletion request hrequest ↦ by
    obtain rfl := Option.some.inj hcompletion
    obtain rfl := Option.some.inj hrequest
    exact ⟨replyOf_jsonSafe arguments, requestSafe_first⟩, trivial⟩

theorem collisionFree_runOf (arguments : Text) : CollisionFree noToolsDigest (runOf arguments) := by
  intro blob hblob blob' hblob' _
  rw [List.mem_singleton.mp hblob, List.mem_singleton.mp hblob']
  rfl

end HarnessTraining
