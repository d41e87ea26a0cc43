import HarnessTraining.Rollout.Telemetry

/-!
# Recorded completions

When `on_completion_received` returns, and what it leaves.  A row is written, or the announcement
raises; then `InstrumentedLlm.complete` raises a `FrameworkError`, which ends the experiment.

* `returns_onCompletionReceived` — the announcement, stage by stage;
* `completion_recorded_iff` — which replies of a model are recorded.
-/

set_option autoImplicit false

namespace HarnessTraining

open Python StateExcept

/-! ## Blobs -/

section Blobs

variable (sha256 : Text → Text)

/-- The blob of the tools of a request. -/
def toolsBlob (requestTools : List PyDict) : PyDict := pyDict [("tools", .arr (requestTools.map .obj))]

/-- A blob as it is written after the hashes in `seen`, and the hashes after it. -/
def deduplicated (refKeys : List String) (seen : List Text) (blob : PyDict) :
    Option (PyDict × List Text) := do
  let sha ← blobSha sha256 blob
  if sha ∈ seen then
    if ∀ key ∈ refKeys, (PyJson.get? (ofString key) blob).isSome = true then
      some (blobReference refKeys blob sha, seen)
    else none
  else some (fullBlob blob sha, sha :: seen)

def deduplicatedAll (refKeys : List String) : List Text → List PyDict → Option (List PyDict × List Text)
  | seen, [] => some ([], seen)
  | seen, blob :: blobs => do
    let (row, seen) ← deduplicated sha256 refKeys seen blob
    let (rows, seen) ← deduplicatedAll refKeys seen blobs
    some (row :: rows, seen)

/-- The messages and the tools of a request as they are written. -/
def deduplicatedRequest (seen : List Text) (requestMessages requestTools : List PyDict) :
    Option ((List PyDict × PyDict) × List Text) := do
  let (messages, seen) ← deduplicatedAll sha256 ["role"] seen requestMessages
  let (tools, seen) ← deduplicated sha256 [] seen (toolsBlob requestTools)
  some ((messages, tools), seen)

variable {sha256} {telemetry : TelemetrySink}

theorem returns_dedupRequestBlob {refKeys : List String} {blob : PyDict}
    {Q : PyDict → TelemetrySink → Prop} :
    wp (dedupRequestBlob sha256 refKeys blob) Q (fun _ _ ↦ False) telemetry ↔
      ∃ row seen, deduplicated sha256 refKeys telemetry.seenRequestShas blob = some (row, seen) ∧
        Q row { telemetry with seenRequestShas := seen } := by
  rw [dedupRequestBlob, deduplicated]
  cases blobSha sha256 blob with
  | none => simp
  | some sha =>
    dsimp only
    rw [wp_bind, wp_get, wp_ite, Option.bind_eq_bind, Option.bind_some]
    by_cases hseen : sha ∈ telemetry.seenRequestShas
    · rw [if_pos hseen, and_iff_left fun hnew ↦ absurd hseen hnew, forall_prop_of_true hseen]
      by_cases hkeys : ∀ key ∈ refKeys, (PyJson.get? (ofString key) blob).isSome = true
      · have hfind : (refKeys.find? fun key ↦ (PyJson.get? (ofString key) blob).isNone) = none := by
          rw [List.find?_eq_none]
          intro key hkey
          rw [Option.isNone_iff_eq_none, ← ne_eq, ← Option.isSome_iff_ne_none]
          exact hkeys key hkey
        rw [if_pos hkeys, hfind]
        simp
      · cases hfind : refKeys.find? fun key ↦ (PyJson.get? (ofString key) blob).isNone with
        | none =>
          rw [List.find?_eq_none] at hfind
          refine absurd (fun key hkey ↦ ?_) hkeys
          rw [Option.isSome_iff_ne_none, ne_eq, ← Option.isNone_iff_eq_none]
          exact hfind key hkey
        | some key =>
          rw [if_neg hkeys]
          simp
    · rw [if_neg hseen, and_iff_right fun hold ↦ absurd hold hseen, forall_prop_of_true hseen]
      simp

theorem returns_mapM_dedupRequestBlob {refKeys : List String} {Q : List PyDict → TelemetrySink → Prop} :
    ∀ {blobs : List PyDict} {telemetry : TelemetrySink},
      wp (blobs.mapM (dedupRequestBlob sha256 refKeys)) Q (fun _ _ ↦ False) telemetry ↔
        ∃ rows seen,
          deduplicatedAll sha256 refKeys telemetry.seenRequestShas blobs = some (rows, seen) ∧
            Q rows { telemetry with seenRequestShas := seen }
  | [], telemetry => by simp [deduplicatedAll]
  | blob :: blobs, telemetry => by
    rw [List.mapM_cons, wp_bind, returns_dedupRequestBlob, deduplicatedAll]
    constructor
    · rintro ⟨row, seen, hrow, h⟩
      rw [wp_bind, returns_mapM_dedupRequestBlob] at h
      obtain ⟨rows, seen', hrows, h⟩ := h
      refine ⟨row :: rows, seen', ?_, h⟩
      rw [hrow, Option.bind_eq_bind, Option.bind_some]
      dsimp only at hrows ⊢
      rw [hrows, Option.bind_eq_bind, Option.bind_some]
    · rintro ⟨rows, seen', h, hQ⟩
      obtain ⟨⟨row, seen⟩, hrow, h⟩ := Option.bind_eq_some_iff.mp h
      obtain ⟨⟨rows', seen''⟩, hrows, h⟩ := Option.bind_eq_some_iff.mp h
      obtain ⟨rfl, rfl⟩ := Prod.mk.inj (Option.some.inj h)
      refine ⟨row, seen, hrow, ?_⟩
      rw [wp_bind, returns_mapM_dedupRequestBlob]
      exact ⟨rows', seen'', hrows, hQ⟩

end Blobs

/-! ## A row or an exception -/

section Rows

variable {sha256 decodeError : Text → Text} {writing : Writing}

namespace TelemetrySink

/-- The name of an event is in its row, whatever its fields are. -/
theorem get?_row (tSec : Decimal) (name : String) (fields : PyDict) :
    PyJson.get? (ofString "event") (row tSec name fields) = some (.str (ofString name)) := by
  rw [row, PyJson.get?_setItem, PyJson.get?_setItem, if_neg fun h ↦ absurd (ofString_injective h) (by decide),
    if_pos rfl]

/-- A program leaves a field of the sink alone, however it ends. -/
abbrev Frames {α β : Type} (field : TelemetrySink → β) (m : TelemetryM α) : Prop :=
  Preserves (fun telemetry telemetry' ↦ field telemetry' = field telemetry) m

/-- A row of that name is written, or an exception is raised. -/
def Writes (name : String) (m : TelemetryM Unit) : Prop := ∀ telemetry, wp m
  (fun _ telemetry' ↦ ∃ row, telemetry'.trace = telemetry.trace ++ [row] ∧
    PyJson.get? (ofString "event") row = some (.str (ofString name)))
  (fun _ telemetry' ↦ telemetry'.trace = telemetry.trace) telemetry

section Rules

variable {α β γ : Type} {m : TelemetryM α} {f : α → TelemetryM β} {name : String}
  {field : TelemetrySink → γ}

theorem Frames.pure (a : α) : Frames field (Pure.pure a) := fun _ ↦ rfl

theorem Frames.throw (text : String) : Frames field (throw text : TelemetryM α) := fun _ ↦ rfl

theorem Frames.get : Frames field (get : TelemetryM TelemetrySink) := fun _ ↦ rfl

theorem Frames.modify {g : TelemetrySink → TelemetrySink} (h : ∀ t, field (g t) = field t) :
    Frames field (modify g) := Preserves.modify h

theorem Frames.bind (hm : Frames field m) (hf : ∀ a, Frames field (f a)) : Frames field (m >>= f) :=
  Preserves.bind (fun _ _ _ h h' ↦ h'.trans h) hm hf

theorem Frames.mapM {f : α → TelemetryM β} (h : ∀ a, Frames field (f a)) (as : List α) :
    Frames field (as.mapM f) := by
  refine Preserves.mapM ?_ ?_ h as
  · exact fun _ ↦ rfl
  · exact fun _ _ _ h h' ↦ h'.trans h

theorem Frames.attempt
    (h : ∀ t n, field { t with pendingCompletions := n } = field t) : Frames field attempt :=
  Frames.bind Frames.get fun _ ↦ Frames.bind (Frames.modify fun t ↦ h t _) fun _ ↦ Frames.pure _

theorem Frames.event (h : ∀ t rows, field { t with trace := rows } = field t) (writing : Writing)
    (name : String) (fields : PyDict) : Frames field (event writing name fields) := by
  rw [TelemetrySink.event]
  split
  · exact Frames.throw _
  · exact Frames.throw _
  · exact Frames.modify fun t ↦ h t _

theorem writes_event (writing : Writing) (name : String) (fields : PyDict) :
    Writes name (event writing name fields) := by
  intro telemetry
  rw [TelemetrySink.event]
  split
  · exact rfl
  · exact rfl
  · exact ⟨_, rfl, get?_row _ _ _⟩

theorem Writes.bind {f : α → TelemetryM Unit} (hm : Frames trace m) (hf : ∀ a, Writes name (f a)) :
    Writes name (m >>= f) := by
  intro telemetry
  rw [wp_bind]
  refine wp_mono (hm telemetry) (fun a telemetry' h ↦ ?_) fun _ _ h ↦ h
  refine wp_mono (hf a telemetry') ?_ fun _ _ h' ↦ h'.trans h
  rintro ⟨⟩ telemetry'' ⟨row, htrace, hevent⟩
  exact ⟨row, by rw [htrace, h], hevent⟩

theorem Writes.throw (text : String) : Writes name (throw text) := fun _ ↦ rfl

end Rules

theorem concludeDecision_frame (valid : Bool) (telemetry : TelemetrySink) :
    (concludeDecision valid telemetry).trace = telemetry.trace ∧
      (concludeDecision valid telemetry).seenRequestShas = telemetry.seenRequestShas := by
  rw [concludeDecision]
  split
  · exact ⟨rfl, rfl⟩
  · exact ⟨rfl, rfl⟩

theorem measure_eq (completion : PyCompletion) (latency : ℚ) (telemetry : TelemetrySink) :
    ∃ latencies rates, TelemetrySink.measure completion latency telemetry =
      { telemetry with liveLlmLatencies := latencies, liveRates := rates } := by
  rw [TelemetrySink.measure]
  split
  · exact ⟨_, _, rfl⟩
  · exact ⟨_, _, rfl⟩

section Requests

variable {γ : Type} {field : TelemetrySink → γ}
  (h : ∀ t shas, field { t with seenRequestShas := shas } = field t)

include h

theorem frames_dedupRequestBlob (sha256 : Text → Text) (refKeys : List String) (blob : PyDict) :
    Frames field (dedupRequestBlob sha256 refKeys blob) := by
  rw [dedupRequestBlob]
  split
  · exact Frames.throw _
  · refine Frames.bind Frames.get fun telemetry ↦ ?_
    split
    · split
      · exact Frames.throw _
      · exact Frames.pure _
    · exact Frames.bind (Frames.modify fun t ↦ h t _) fun _ ↦ Frames.pure _

theorem frames_slimCompletionEvent (sha256 decodeError : Text → Text) (stepIndex attemptIndex : ℕ)
    (requestMessages requestTools : List PyDict) (completion : PyCompletion) (llmLatencySec : Decimal) :
    Frames field (slimCompletionEvent sha256 decodeError stepIndex attemptIndex requestMessages
      requestTools completion llmLatencySec) := by
  refine Frames.bind (Frames.mapM (frames_dedupRequestBlob h sha256 ["role"]) _) fun _ ↦
    Frames.bind (frames_dedupRequestBlob h sha256 [] _) fun _ ↦ ?_
  split
  · exact Frames.throw _
  · exact Frames.pure _

end Requests

end TelemetrySink

open TelemetrySink in
/-- **An announcement writes its row, or it raises and the file is as it was.** -/
theorem Announcement.writes (sha256 decodeError : Text → Text) (writing : Writing) :
    ∀ announcement : Announcement,
      Writes announcement.eventName (announcement.record sha256 decodeError writing)
  | .policyEvent name error fields => by
    rw [record, TelemetrySink.onPolicyEvent.eq_def]
    split
    · exact Writes.throw _
    · split
      · split
        · exact Writes.throw _
        · exact Writes.bind (Frames.modify fun _ ↦ rfl) fun _ ↦ writes_event _ _ _
      · exact writes_event _ _ _
  | .completionReceived requestMessages requestTools completion llmLatencySec =>
    Writes.bind (Frames.attempt fun _ _ ↦ rfl) fun _ ↦
      Writes.bind (Frames.modify fun t ↦ by
        obtain ⟨_, _, h⟩ := measure_eq completion _ t
        rw [h]) fun _ ↦
        Writes.bind Frames.get fun _ ↦
          Writes.bind (frames_slimCompletionEvent (fun _ _ ↦ rfl) _ _ _ _ _ _ _ _) fun _ ↦
            writes_event _ _ _
  | .completionRejected error =>
    Writes.bind (Frames.attempt fun _ _ ↦ rfl) fun _ ↦ Writes.bind Frames.get fun _ ↦
      writes_event _ _ _
  | .noValidActionStep stepIndex =>
    Writes.bind (Frames.modify fun t ↦ (concludeDecision_frame false t).1) fun _ ↦
      Writes.bind (Frames.modify fun _ ↦ rfl) fun _ ↦ writes_event _ _ _
  | .stepCompleted stepIndex callIndex stepResult terminal => by
    rw [record, onStepCompleted]
    split
    · exact Writes.bind (Frames.modify fun t ↦ (concludeDecision_frame true t).1) fun _ ↦
        Writes.bind (Frames.modify fun _ ↦ rfl) fun _ ↦ writes_event _ _ _
    · exact Writes.bind (Frames.modify fun _ ↦ rfl) fun _ ↦ writes_event _ _ _

/-- What an announcement does to the trace; an event of the policy has one of the known names. -/
theorem Announcement.leaves_trace (sha256 decodeError : Text → Text) (announcement : Announcement)
    (writing : Writing) (telemetry : TelemetrySink) :
    (Announcement.leaves sha256 decodeError (announcement, writing) telemetry).trace = telemetry.trace ∨
    ∃ row, (Announcement.leaves sha256 decodeError (announcement, writing) telemetry).trace =
        telemetry.trace ++ [row] ∧
      PyJson.get? (ofString "event") row = some (.str (ofString announcement.eventName)) ∧
      ∀ name error fields, announcement = .policyEvent name error fields → name ∈ POLICY_EVENT_NAMES := by
  by_cases hknown : ∀ name error fields, announcement = .policyEvent name error fields →
    name ∈ POLICY_EVENT_NAMES
  · refine wp_left (P := fun telemetry' ↦ telemetry'.trace = telemetry.trace ∨ ∃ row,
      telemetry'.trace = telemetry.trace ++ [row] ∧
        PyJson.get? (ofString "event") row = some (.str (ofString announcement.eventName)) ∧ _)
      (wp_mono (Announcement.writes sha256 decodeError writing announcement telemetry) ?_ ?_)
    · rintro ⟨⟩ telemetry' ⟨row, htrace, hevent⟩
      exact Or.inr ⟨row, htrace, hevent, hknown⟩
    · exact fun _ _ htrace ↦ Or.inl htrace
  · push Not at hknown
    obtain ⟨name, error, fields, rfl, hname⟩ := hknown
    refine Or.inl ?_
    rw [Announcement.leaves, Announcement.record, TelemetrySink.onPolicyEvent.eq_def, if_pos hname]
    rfl

open TelemetrySink in
/-- The request hashes are those of the completions. -/
theorem Announcement.frames_seenRequestShas (sha256 decodeError : Text → Text) (writing : Writing) :
    ∀ announcement : Announcement, (∀ messages tools completion latency,
      announcement ≠ .completionReceived messages tools completion latency) →
      Frames seenRequestShas (announcement.record sha256 decodeError writing)
  | .policyEvent name error fields, _ => by
    have hevent : Frames seenRequestShas (event writing name fields) := Frames.event (fun _ _ ↦ rfl) _ _ _
    rw [record, TelemetrySink.onPolicyEvent.eq_def]
    split
    · exact Frames.throw _
    · split
      · split
        · exact Frames.throw _
        · exact Frames.bind (Frames.modify fun _ ↦ rfl) fun _ ↦ hevent
      · exact hevent
  | .completionReceived _ _ _ _, h => absurd rfl (h _ _ _ _)
  | .completionRejected error, _ =>
    Frames.bind (Frames.attempt fun _ _ ↦ rfl) fun _ ↦ Frames.bind Frames.get fun _ ↦
      Frames.event (fun _ _ ↦ rfl) _ _ _
  | .noValidActionStep stepIndex, _ =>
    Frames.bind (Frames.modify fun t ↦ (concludeDecision_frame false t).2) fun _ ↦
      Frames.bind (Frames.modify fun _ ↦ rfl) fun _ ↦ Frames.event (fun _ _ ↦ rfl) _ _ _
  | .stepCompleted stepIndex callIndex stepResult terminal, _ => by
    rw [record, onStepCompleted]
    split
    · exact Frames.bind (Frames.modify fun t ↦ (concludeDecision_frame true t).2) fun _ ↦
        Frames.bind (Frames.modify fun _ ↦ rfl) fun _ ↦ Frames.event (fun _ _ ↦ rfl) _ _ _
    · exact Frames.bind (Frames.modify fun _ ↦ rfl) fun _ ↦ Frames.event (fun _ _ ↦ rfl) _ _ _

end Rows

/-! ## The announcement -/

namespace TelemetrySink

/-- The fields of a completion that is announced. -/
def completionFields (stepIndex attemptIndex : ℕ) (request : List PyDict × PyDict) (completion : PyDict)
    (llmLatencySec : Decimal) : PyDict := pyDict [
  ("step_index", .int stepIndex),
  ("attempt_index", .int attemptIndex),
  ("request_messages", .arr (request.1.map .obj)),
  ("request_tools", .obj request.2),
  ("completion", .obj completion),
  ("llm_latency_sec", .float llmLatencySec)]

/-- An attempt of which a completion came. -/
def attempted (completion : PyCompletion) (llmLatencySec : Decimal) (telemetry : TelemetrySink) :
    TelemetrySink :=
  measure completion (Number.float llmLatencySec).toRat
    { telemetry with pendingCompletions := telemetry.pendingCompletions + 1 }

section Announcement

variable {sha256 decodeError : Text → Text} {writing : Writing} {name : String} {fields : PyDict}
  {requestMessages requestTools : List PyDict} {completion : PyCompletion} {llmLatencySec : Decimal}
  {telemetry : TelemetrySink} {Q : Unit → TelemetrySink → Prop} {E : String → TelemetrySink → Prop}

theorem attempted_frame : (attempted completion llmLatencySec telemetry).seenRequestShas =
      telemetry.seenRequestShas ∧
    (attempted completion llmLatencySec telemetry).stepsTaken = telemetry.stepsTaken ∧
    (attempted completion llmLatencySec telemetry).trace = telemetry.trace := by
  obtain ⟨latencies, rates, h⟩ := measure_eq completion (Number.float llmLatencySec).toRat
    { telemetry with pendingCompletions := telemetry.pendingCompletions + 1 }
  rw [attempted, h]
  exact ⟨rfl, rfl, rfl⟩

/-- The announcement of an attempt that is counted. -/
theorem wp_onCompletionReceived :
    wp (onCompletionReceived sha256 decodeError writing requestMessages requestTools completion
        llmLatencySec) Q E telemetry ↔
      wp (slimCompletionEvent sha256 decodeError (telemetry.stepsTaken + 1) telemetry.pendingCompletions
          requestMessages requestTools completion llmLatencySec)
        (fun fields ↦ wp (event writing "completion_received" fields) Q E) E
        (attempted completion llmLatencySec telemetry) := by
  rw [← attempted_frame.2.1, onCompletionReceived, attempt]
  simp only [bind_assoc, pure_bind, wp_bind, wp_get, wp_modify]
  exact Iff.rfl

theorem returns_event : wp (event writing name fields) Q (fun _ _ ↦ False) telemetry ↔
    writing.disk = .ok () ∧ PyJson.Writable (.obj (row writing.tSec name fields)) ∧
      Q () { telemetry with trace := telemetry.trace ++ [row writing.tSec name fields] } := by
  rw [event]
  rcases hdisk : writing.disk with text | ⟨⟩
  · simp
  · cases hdump : PyJson.dump .spaced (.obj (row writing.tSec name fields)) with
    | none => simp [PyJson.dump_eq_none.mp hdump]
    | some text => simp [(PyJson.dump_eq_some.mp hdump).1]

/-- **The announcement returns** if the request can be written, the calls can be parsed, and the file
takes the row. -/
theorem returns_onCompletionReceived :
    wp (onCompletionReceived sha256 decodeError writing requestMessages requestTools completion
        llmLatencySec) Q (fun _ _ ↦ False) telemetry ↔
      ∃ request seen parsed,
        deduplicatedRequest sha256 telemetry.seenRequestShas requestMessages requestTools =
          some (request, seen) ∧
        completionWithParsedCalls decodeError completion = .ok parsed ∧
        writing.disk = .ok () ∧
        PyJson.Writable (.obj (row writing.tSec "completion_received" (completionFields
          (telemetry.stepsTaken + 1) telemetry.pendingCompletions request parsed llmLatencySec))) ∧
        Q () { attempted completion llmLatencySec telemetry with
          seenRequestShas := seen
          trace := telemetry.trace ++ [row writing.tSec "completion_received" (completionFields
            (telemetry.stepsTaken + 1) telemetry.pendingCompletions request parsed llmLatencySec)] } := by
  obtain ⟨hseen, -, htrace⟩ := @attempted_frame completion llmLatencySec telemetry
  rw [wp_onCompletionReceived, slimCompletionEvent, deduplicatedRequest]
  simp only [wp_bind, returns_mapM_dedupRequestBlob, returns_dedupRequestBlob, hseen]
  constructor
  · rintro ⟨messages, seen, hmessages, tools, seen', htools, h⟩
    cases hparsed : completionWithParsedCalls decodeError completion with
    | error text =>
      rw [hparsed] at h
      exact h.elim
    | ok parsed =>
      rw [hparsed] at h
      obtain ⟨hdisk, hwritable, hQ⟩ := returns_event.mp h
      refine ⟨(messages, tools), seen', parsed, ?_, rfl, hdisk, hwritable, ?_⟩
      · rw [hmessages, Option.bind_eq_bind, Option.bind_some]
        dsimp only
        rw [toolsBlob, htools, Option.bind_eq_bind, Option.bind_some]
      · rw [← htrace]
        exact hQ
  · rintro ⟨request, seen', parsed, hrequest, hparsed, hdisk, hwritable, hQ⟩
    obtain ⟨⟨messages, seen⟩, hmessages, hrequest⟩ := Option.bind_eq_some_iff.mp hrequest
    obtain ⟨⟨tools, seen''⟩, htools, hrequest⟩ := Option.bind_eq_some_iff.mp hrequest
    obtain ⟨rfl, rfl⟩ := Prod.mk.inj (Option.some.inj hrequest)
    refine ⟨messages, seen, hmessages, tools, seen'', htools, ?_⟩
    rw [hparsed]
    refine returns_event.mpr ⟨hdisk, hwritable, ?_⟩
    rw [← htrace] at hQ
    exact hQ

end Announcement

end TelemetrySink

/-! ## What a reply can do -/

section Reply

variable (sha256 decodeError : Text → Text) {writing : Writing}
  {requestMessages requestTools : List PyDict} {completion : PyCompletion} {llmLatencySec : Decimal}
  {telemetry : TelemetrySink}

/-- No integer literal of the arguments is too long, up to their end or their first syntax error. -/
def PyToolCall.ShortLiterals (call : PyToolCall) : Prop :=
  ∀ digits ∈ PyJson.integerLiterals call.argumentsText, digits ≤ PyJson.MAX_STR_DIGITS

instance (call : PyToolCall) : Decidable call.ShortLiterals :=
  inferInstanceAs (Decidable (∀ digits ∈ PyJson.integerLiterals call.argumentsText,
    digits ≤ PyJson.MAX_STR_DIGITS))

/-- What is written of the completion verbatim can be written, and so can the indices of its calls. -/
structure PyCompletion.JsonSafe (completion : PyCompletion) : Prop where
  verbatim : PyJson.Writable (.obj completion.asdict)
  indices : ∀ index < completion.toolCalls.length, PyJson.Writable (.int index)

/-- Everything but the reply is fine: the request is made of chat messages that can be written, the
counters can be written, and the file takes the row. -/
structure RequestSafe (telemetry : TelemetrySink) (writing : Writing)
    (requestMessages requestTools : List PyDict) : Prop where
  messages : ∀ message ∈ requestMessages, PyJson.Writable (.obj message) ∧
    (PyJson.get? (ofString "role") message).isSome = true
  tools : ∀ tool ∈ requestTools, PyJson.Writable (.obj tool)
  stepIndex : PyJson.Writable (.int (telemetry.stepsTaken + 1 : ℕ))
  attemptIndex : PyJson.Writable (.int telemetry.pendingCompletions)
  disk : writing.disk = .ok ()

theorem writable_pyDict {members : List (String × PyJson)} :
    PyJson.Writable (.obj (pyDict members)) ↔ ∀ member ∈ members, PyJson.Writable member.2 := by
  rw [PyJson.writable_obj, pyDict, List.forall_mem_map]

theorem writable_str (text : Text) : PyJson.Writable (.str text) := PyJson.writable_nil rfl

theorem writable_float (q : Decimal) : PyJson.Writable (.float q) := PyJson.writable_nil rfl

theorem writable_setItem {key value : Text} {blob : PyDict}
    (h : ∀ member ∈ blob, PyJson.Writable member.2) :
    PyJson.Writable (.obj (PyJson.setItem key (.str value) blob)) :=
  PyJson.writable_obj.mpr fun member hmember ↦ by
    rcases PyJson.mem_setItem hmember with rfl | hmember
    · exact PyJson.writable_nil rfl
    · exact h member hmember

theorem deduplicated_exists {refKeys : List String} {blob : PyDict} (seen : List Text)
    (hwritable : PyJson.Writable (.obj blob))
    (hkeys : ∀ key ∈ refKeys, (PyJson.get? (ofString key) blob).isSome = true) :
    ∃ row seen', deduplicated sha256 refKeys seen blob = some (row, seen') ∧
      PyJson.Writable (.obj row) := by
  have hmembers := PyJson.writable_obj.mp hwritable
  obtain ⟨sha, hsha⟩ : ∃ sha, blobSha sha256 blob = some sha :=
    ⟨_, Option.map_eq_some_iff.mpr
      ⟨_, PyJson.dump_eq_some.mpr ⟨PyJson.writable_sortKeys.mpr hwritable, rfl⟩, rfl⟩⟩
  rw [deduplicated, hsha, Option.bind_eq_bind, Option.bind_some]
  by_cases hseen : sha ∈ seen
  · rw [if_pos hseen, if_pos hkeys]
    refine ⟨_, _, rfl, writable_setItem fun member hmember ↦ ?_⟩
    obtain ⟨key, -, hmember⟩ := List.mem_filterMap.mp hmember
    obtain ⟨value, hvalue, rfl⟩ := Option.map_eq_some_iff.mp hmember
    exact hmembers _ (PyJson.mem_of_get? hvalue)
  · rw [if_neg hseen]
    exact ⟨_, _, rfl, writable_setItem hmembers⟩

theorem deduplicatedAll_exists (refKeys : List String) : ∀ {blobs : List PyDict} (seen : List Text),
    (∀ blob ∈ blobs, PyJson.Writable (.obj blob) ∧
      ∀ key ∈ refKeys, (PyJson.get? (ofString key) blob).isSome = true) →
    ∃ rows seen', deduplicatedAll sha256 refKeys seen blobs = some (rows, seen') ∧
      ∀ row ∈ rows, PyJson.Writable (.obj row)
  | [], seen, _ => ⟨[], seen, rfl, List.forall_mem_nil _⟩
  | blob :: blobs, seen, h => by
    obtain ⟨hwritable, hkeys⟩ := h blob List.mem_cons_self
    obtain ⟨row, seen', hrow, hfine⟩ := deduplicated_exists sha256 seen hwritable hkeys
    obtain ⟨rows, seen'', hrows, hfines⟩ := deduplicatedAll_exists refKeys seen'
      fun blob hblob ↦ h blob (List.mem_cons_of_mem _ hblob)
    refine ⟨row :: rows, seen'', ?_, List.forall_mem_cons.mpr ⟨hfine, hfines⟩⟩
    rw [deduplicatedAll, hrow, Option.bind_eq_bind, Option.bind_some]
    dsimp only
    rw [hrows]
    rfl

theorem parsedCall_ok_iff {index : ℕ} {call : PyToolCall} :
    (∃ value, parsedCall decodeError index call = .ok value) ↔ call.ShortLiterals := by
  have hlimit := PyJson.loads_digitLimit_iff call.argumentsText
  have hshort : call.ShortLiterals ↔ PyJson.loads call.argumentsText ≠ .error .digitLimit := by
    rw [ne_eq, hlimit, PyToolCall.ShortLiterals]
    push Not
    exact Iff.rfl
  rw [hshort, parsedCall]
  split
  · next hloads => exact iff_of_true ⟨_, rfl⟩ (by rw [hloads]; rintro ⟨⟩)
  · next hloads => exact iff_of_true ⟨_, rfl⟩ (by rw [hloads]; rintro ⟨⟩)
  · next hloads => exact iff_of_false (by rintro ⟨_, ⟨⟩⟩) (not_not.mpr hloads)

variable {decodeError} in
theorem parsedCall_writable {index : ℕ} {call : PyToolCall} {value : PyJson}
    (hindex : PyJson.Writable (.int index)) (h : parsedCall decodeError index call = .ok value) :
    PyJson.Writable value := by
  rw [parsedCall] at h
  split at h
  · next args hargs =>
    rw [← Except.ok.inj h, writable_pyDict]
    simp only [List.forall_mem_cons]
    exact ⟨hindex, writable_str _, PyJson.writable_of_loads hargs, List.forall_mem_nil _⟩
  · rw [← Except.ok.inj h, writable_pyDict]
    simp only [List.forall_mem_cons]
    exact ⟨hindex, writable_str _, writable_str _, writable_str _, List.forall_mem_nil _⟩
  · cases h

theorem completionWithParsedCalls_ok_iff :
    (∃ parsed, completionWithParsedCalls decodeError completion = .ok parsed) ↔
      ∀ call ∈ completion.toolCalls, call.ShortLiterals := by
  have hcalls : (∃ calls, (completion.toolCalls.zipIdx.mapM
      fun call ↦ parsedCall decodeError call.2 call.1) = .ok calls) ↔
        ∀ call ∈ completion.toolCalls, call.ShortLiterals := by
    rw [mapM_ok_iff]
    simp only [parsedCall_ok_iff decodeError]
    constructor
    · intro h call hcall
      obtain ⟨index, hindex⟩ := List.mem_iff_getElem?.mp hcall
      exact h (call, index) (List.mk_mem_zipIdx_iff_getElem?.mpr hindex)
    · exact fun h call hcall ↦ h call.1 (List.fst_mem_of_mem_zipIdx hcall)
  rw [← hcalls, completionWithParsedCalls]
  cases completion.toolCalls.zipIdx.mapM fun call ↦ parsedCall decodeError call.2 call.1 with
  | error text => exact iff_of_false (by rintro ⟨_, ⟨⟩⟩) (by rintro ⟨_, ⟨⟩⟩)
  | ok calls => exact iff_of_true ⟨_, rfl⟩ ⟨_, rfl⟩

variable {decodeError} in
theorem completionWithParsedCalls_writable (hsafe : completion.JsonSafe) {parsed : PyDict}
    (h : completionWithParsedCalls decodeError completion = .ok parsed) :
    PyJson.Writable (.obj parsed) := by
  obtain ⟨calls, hcalls, h⟩ := bind_eq_ok h
  obtain rfl := Except.ok.inj h
  have hwritable : PyJson.Writable (.arr calls) := by
    rw [PyJson.writable_arr]
    intro value hvalue
    obtain ⟨call, hcall, hvalue⟩ := mem_of_mapM_ok hcalls hvalue
    have hindex : call.2 < completion.toolCalls.length := by
      simpa using List.snd_lt_of_mem_zipIdx hcall
    exact parsedCall_writable (hsafe.indices _ hindex) hvalue
  rw [PyJson.writable_obj, List.forall_mem_append, ← PyJson.writable_obj, ← PyJson.writable_obj,
    writable_pyDict, List.forall_mem_singleton]
  exact ⟨hsafe.verbatim, hwritable⟩

namespace TelemetrySink

/-- The row of fields under names of their own. -/
theorem row_pyDict {tSec : Decimal} {name : String} {members : List (String × PyJson)}
    (h : ∀ member ∈ members, member.1 ≠ "event" ∧ member.1 ≠ "t_sec") :
    row tSec name (pyDict members) =
      pyDict (members ++ [("event", .str (ofString name)), ("t_sec", .float tSec)]) := by
  have hfresh {key : String} {entries : List (String × PyJson)} {value : PyJson}
      (hkey : ∀ entry ∈ entries, entry.1 ≠ key) :
      PyJson.setItem (ofString key) value (pyDict entries) = pyDict (entries ++ [(key, value)]) := by
    rw [PyJson.setItem_fresh]
    · simp [pyDict]
    · intro hmem
      obtain ⟨member, hmember, heq⟩ := List.mem_map.mp hmem
      obtain ⟨entry, hentry, rfl⟩ := List.mem_map.mp hmember
      exact hkey entry hentry (ofString_injective heq)
  rw [row, hfresh fun member hmember ↦ (h member hmember).1, hfresh, List.append_assoc]
  · rfl
  · intro entry hentry
    rcases List.mem_append.mp hentry with hentry | hentry
    · exact (h entry hentry).2
    · rw [List.mem_singleton.mp hentry]
      simp

theorem row_completionFields (tSec : Decimal) (stepIndex attemptIndex : ℕ)
    (request : List PyDict × PyDict) (parsed : PyDict) (llmLatencySec : Decimal) :
    row tSec "completion_received"
        (completionFields stepIndex attemptIndex request parsed llmLatencySec) = pyDict [
      ("step_index", .int stepIndex), ("attempt_index", .int attemptIndex),
      ("request_messages", .arr (request.1.map .obj)), ("request_tools", .obj request.2),
      ("completion", .obj parsed), ("llm_latency_sec", .float llmLatencySec),
      ("event", .str (ofString "completion_received")), ("t_sec", .float tSec)] :=
  row_pyDict (by simp)

end TelemetrySink

open TelemetrySink

/-- **Which replies are recorded.**  If nothing but the reply is at fault, its announcement returns
exactly when no integer literal in the arguments of its calls is too long. -/
theorem returns_iff_shortLiterals (hsafe : completion.JsonSafe)
    (hrequest : RequestSafe telemetry writing requestMessages requestTools) :
    wp (onCompletionReceived sha256 decodeError writing requestMessages requestTools completion
        llmLatencySec) (fun _ _ ↦ True) (fun _ _ ↦ False) telemetry ↔
      ∀ call ∈ completion.toolCalls, call.ShortLiterals := by
  rw [returns_onCompletionReceived, ← completionWithParsedCalls_ok_iff decodeError]
  constructor
  · rintro ⟨_, _, parsed, -, hparsed, -⟩
    exact ⟨parsed, hparsed⟩
  · rintro ⟨parsed, hparsed⟩
    obtain ⟨messages, seen, hmessages, hmessagesFine⟩ := deduplicatedAll_exists sha256 ["role"]
      telemetry.seenRequestShas fun message hmessage ↦
        ⟨(hrequest.messages message hmessage).1, by
          simpa using (hrequest.messages message hmessage).2⟩
    have htools : PyJson.Writable (.obj (toolsBlob requestTools)) := by
      rw [toolsBlob, writable_pyDict, List.forall_mem_singleton, PyJson.writable_arr,
        List.forall_mem_map]
      exact hrequest.tools
    obtain ⟨tools, seen', htools, htoolsFine⟩ := deduplicated_exists sha256 seen htools
      (List.forall_mem_nil _)
    refine ⟨(messages, tools), seen', parsed, ?_, hparsed, hrequest.disk, ?_, trivial⟩
    · rw [deduplicatedRequest, hmessages, Option.bind_eq_bind, Option.bind_some]
      dsimp only
      rw [htools]
      rfl
    · have hparsedFine := completionWithParsedCalls_writable hsafe hparsed
      have hmessagesFine : PyJson.Writable (.arr (messages.map .obj)) :=
        PyJson.writable_arr.mpr (List.forall_mem_map.mpr hmessagesFine)
      rw [row_completionFields, writable_pyDict]
      simp only [List.forall_mem_cons]
      exact ⟨hrequest.stepIndex, hrequest.attemptIndex, hmessagesFine, htoolsFine, hparsedFine,
        writable_float _, writable_str _, writable_float _, List.forall_mem_nil _⟩

/-- An announcement that returns has added a row. -/
theorem onCompletionReceived_row (h : wp (onCompletionReceived sha256 decodeError writing requestMessages
      requestTools completion llmLatencySec) (fun _ _ ↦ True) (fun _ _ ↦ False) telemetry) :
    wp (onCompletionReceived sha256 decodeError writing requestMessages requestTools completion
        llmLatencySec) (fun _ telemetry' ↦ ∃ row, telemetry'.trace = telemetry.trace ++ [row])
      (fun _ _ ↦ False) telemetry := by
  rw [returns_onCompletionReceived] at h ⊢
  obtain ⟨request, seen, parsed, hrequest, hparsed, hdisk, hwritable, -⟩ := h
  exact ⟨request, seen, parsed, hrequest, hparsed, hdisk, hwritable, _, rfl⟩

/-- `InstrumentedLlm.complete` ends as the announcement does. -/
theorem complete_ends : wp (InstrumentedLlm.complete sha256 decodeError writing requestMessages
      requestTools llmLatencySec (.ok completion))
    (fun reply telemetry' ↦ reply = completion ∧ exec (onCompletionReceived sha256 decodeError writing
      requestMessages requestTools completion llmLatencySec) telemetry = (.ok (), telemetry'))
    (fun error telemetry' ↦ ∃ text, error = frameworkFailure text ∧
      exec (onCompletionReceived sha256 decodeError writing requestMessages requestTools completion
        llmLatencySec) telemetry = (.error text, telemetry')) telemetry := by
  rw [InstrumentedLlm.complete, wp_bind, wp_raiseAs]
  exact wp_mono wp_exec (fun _ _ h ↦ ⟨rfl, h⟩) fun text _ h ↦ ⟨text, rfl, h⟩

/-- An announcement that does not return makes a `FrameworkError` of a reply. -/
theorem complete_raises (h : ¬wp (onCompletionReceived sha256 decodeError writing requestMessages
      requestTools completion llmLatencySec) (fun _ _ ↦ True) (fun _ _ ↦ False) telemetry) :
    ∃ text telemetry', exec (onCompletionReceived sha256 decodeError writing requestMessages
        requestTools completion llmLatencySec) telemetry = (.error text, telemetry') ∧
      exec (InstrumentedLlm.complete sha256 decodeError writing requestMessages requestTools
        llmLatencySec (.ok completion)) telemetry = (.error (frameworkFailure text), telemetry') := by
  have hends := @complete_ends sha256 decodeError writing requestMessages requestTools completion
    llmLatencySec telemetry
  rcases hcomplete : exec (InstrumentedLlm.complete sha256 decodeError writing requestMessages
    requestTools llmLatencySec (.ok completion)) telemetry with ⟨error | reply, telemetry'⟩
  · obtain ⟨text, rfl, hexec⟩ := wp_error hends hcomplete
    exact ⟨text, telemetry', hexec, rfl⟩
  · obtain ⟨rfl, hexec⟩ := wp_ok hends hcomplete
    exact absurd ((wp_of_exec hexec).mpr trivial) h

/-- An announcement that returns leaves the reply to the policy. -/
theorem complete_returns (h : wp (onCompletionReceived sha256 decodeError writing requestMessages
      requestTools completion llmLatencySec) (fun _ _ ↦ True) (fun _ _ ↦ False) telemetry) :
    ∃ telemetry', exec (onCompletionReceived sha256 decodeError writing requestMessages
        requestTools completion llmLatencySec) telemetry = (.ok (), telemetry') ∧
      exec (InstrumentedLlm.complete sha256 decodeError writing requestMessages requestTools
        llmLatencySec (.ok completion)) telemetry = (.ok completion, telemetry') := by
  have hends := @complete_ends sha256 decodeError writing requestMessages requestTools completion
    llmLatencySec telemetry
  rcases hcomplete : exec (InstrumentedLlm.complete sha256 decodeError writing requestMessages
    requestTools llmLatencySec (.ok completion)) telemetry with ⟨error | reply, telemetry'⟩
  · obtain ⟨text, -, hexec⟩ := wp_error hends hcomplete
    exact (wp_error h hexec).elim
  · obtain ⟨rfl, hexec⟩ := wp_ok hends hcomplete
    exact ⟨telemetry', hexec, rfl⟩

end Reply

/-! ## Two replies -/

/-- The digest of the blob of no tools. -/
def noToolsDigest (_ : Text) : Text :=
  ofString "fe2f3b4ef49492d81cb350fb689bf9f9dff6cfd1817d72d6ff9fe3350e3d5e6a"

/-- A call whose arguments are one text. -/
def replyOf (arguments : Text) : PyCompletion where
  toolCalls := [⟨ofString "run", arguments⟩]

theorem replyOf_jsonSafe (arguments : Text) : (replyOf arguments).JsonSafe where
  verbatim := by
    rw [PyCompletion.asdict, writable_pyDict]
    simp only [List.forall_mem_cons]
    exact ⟨PyJson.writable_nil rfl, PyJson.writable_nil rfl, PyJson.writable_nil rfl,
      PyJson.writable_nil rfl, PyJson.writable_nil rfl, PyJson.writable_nil rfl, List.forall_mem_nil _⟩
  indices index hindex := by
    obtain rfl : index = 0 := by simpa [replyOf] using hindex
    exact fun digits hdigits ↦ (List.mem_singleton.mp hdigits).trans_le (by decide)

theorem requestSafe_first : RequestSafe {} ⟨.zero, .ok ()⟩ [] [] where
  messages := List.forall_mem_nil _
  tools := List.forall_mem_nil _
  stepIndex digits hdigits := (List.mem_singleton.mp hdigits).trans_le (by decide)
  attemptIndex digits hdigits := (List.mem_singleton.mp hdigits).trans_le (by decide)
  disk := rfl

theorem not_shortLiterals_int {z : ℤ} (hz : 10 ^ PyJson.MAX_STR_DIGITS ≤ z.natAbs) (layout : PyJson.Layout)
    (name : Text) : ¬PyToolCall.ShortLiterals ⟨name, PyJson.dumps layout (.int z)⟩ := by
  intro hshort
  rw [PyToolCall.ShortLiterals, PyToolCall.argumentsText, if_neg (PyJson.dumps_ne_nil _ _),
    PyJson.integerLiterals_int, List.forall_mem_singleton] at hshort
  exact absurd (PyJson.lt_pow_length z.natAbs)
    (not_lt.mpr ((Nat.pow_le_pow_right (by decide) hshort).trans hz))

/-- A number of 4301 digits. -/
def longNumber : ℤ := 10 ^ PyJson.MAX_STR_DIGITS

theorem natAbs_longNumber : 10 ^ PyJson.MAX_STR_DIGITS ≤ longNumber.natAbs := by
  have hpow (n : ℕ) : 10 ^ n ≤ ((10 : ℤ) ^ n).natAbs := (Int.natAbs_pow 10 n).ge
  exact hpow _

end HarnessTraining
