import HarnessTraining.Rollout.Certification

/-!
# Replay keys

How `src/plugins/replay` names a step: the scope of a task and the actions so far are folded into a
digest, action by action, and the digest is the key of the row.

The digest function is a parameter.  SHA-256 is assumed to tell texts apart and to answer in
hexadecimal (`Hexdigest`).

* `stepKey_inj` — a key determines the scope and every action of the chain, in their order.
* `blockedKey_ne_stepKey` — a marker is not a row of a step.
-/

set_option autoImplicit false

namespace HarnessTraining

/-- What is assumed of `hashlib.sha256(...).hexdigest()`. -/
structure Hexdigest where
  digest : String → String
  injective : Function.Injective digest
  hex : ∀ text, ∀ c ∈ (digest text).toList, isHex c = true

/-- The scope of a replay cache. -/
structure ReplayScope where
  replayNamespace : String
  epoch : ℤ
  deriving DecidableEq

/-- `canonical_scope`. -/
def canonicalScope (scope : ReplayScope) : String :=
  (Json.obj [("namespace", .str scope.replayNamespace), ("epoch", .int scope.epoch)]).dumps

/-- `_canonical_action`. -/
def canonicalAction (action : EnvAction) : String := (actionPayload action).dumps

section Keys

variable (hexdigest : Hexdigest)

/-- The digest before the first action. -/
def scopeDigest (scope : ReplayScope) : String := hexdigest.digest (canonicalScope scope)

/-- `_advance`, on the digest. -/
def advanceDigest (digest : String) (action : EnvAction) : String :=
  hexdigest.digest (digest ++ "|" ++ canonicalAction action)

/-- The digest of a chain of actions. -/
def chainDigest (scope : ReplayScope) (actions : List EnvAction) : String :=
  actions.foldl (advanceDigest hexdigest) (scopeDigest hexdigest scope)

/-- The key of a digest. -/
def keyOf (digest : String) : String := "env:" ++ digest

/-- The key of the last step of a chain of actions. -/
def stepKey (scope : ReplayScope) (actions : List EnvAction) : String :=
  keyOf (chainDigest hexdigest scope actions)

/-- `_blocked_key`. -/
def blockedKey (key : String) : String := key ++ ":live-only"

/-- `_BLOCKED_VALUE`. -/
def blockedValue : String := "\x7b\"live_only\":true\x7d"

end Keys

/-! ## Injectivity -/

theorem canonicalScope_inj {scope scope' : ReplayScope} :
    canonicalScope scope = canonicalScope scope' ↔ scope = scope' := by
  refine ⟨fun h ↦ ?_, fun h ↦ by rw [h]⟩
  have hnormal (scope : ReplayScope) :
      (Json.obj [("namespace", .str scope.replayNamespace), ("epoch", .int scope.epoch)]).normal =
        .obj [("epoch", .int scope.epoch), ("namespace", .str scope.replayNamespace)] := by
    simp +decide only [Json.normal, Json.normalMembers, Json.insertMember, if_true, if_false]
  rw [canonicalScope, canonicalScope, Json.dumps_inj, hnormal, hnormal] at h
  obtain ⟨replayNamespace, epoch⟩ := scope
  obtain ⟨replayNamespace', epoch'⟩ := scope'
  simp_all

theorem normal_actionPayload_run (action : RunAction) :
    (actionPayload (.run action)).normal = .obj [
      ("command", .str action.command),
      ("cwd", .ofOption .str action.cwd),
      ("kind", .str "run"),
      ("timeout_sec", .ofOption Number.toJson action.timeoutSec)] := by
  have hcwd : (Json.ofOption .str action.cwd).normal = .ofOption .str action.cwd :=
    Json.normal_ofOption (fun _ ↦ rfl) _
  have htimeout : (Json.ofOption Number.toJson action.timeoutSec).normal =
      .ofOption Number.toJson action.timeoutSec :=
    Json.normal_ofOption Number.normal_toJson _
  simp +decide only [actionPayload, Json.normal, Json.normalMembers, Json.insertMember, hcwd,
    htimeout, if_true, if_false]

theorem ofOption_str_inj {s s' : Option String} (h : Json.ofOption .str s = .ofOption .str s') :
    s = s' := by
  cases s <;> cases s' <;> simp_all [Json.ofOption]

theorem ofOption_number_inj {n n' : Option Number}
    (h : Json.ofOption Number.toJson n = .ofOption Number.toJson n') : n = n' := by
  rcases n with _ | (z | q) <;> rcases n' with _ | (z' | q') <;>
    simp_all [Json.ofOption, Number.toJson]

theorem canonicalAction_inj {action action' : EnvAction} :
    canonicalAction action = canonicalAction action' ↔ action = action' := by
  refine ⟨fun h ↦ ?_, fun h ↦ by rw [h]⟩
  rw [canonicalAction, canonicalAction, Json.dumps_inj] at h
  have hverify : (actionPayload .verify).normal = .obj [("kind", .str "verify")] := rfl
  cases action with
  | verify =>
    cases action' with
    | verify => rfl
    | run action' =>
      rw [hverify, normal_actionPayload_run] at h
      simp at h
  | run action =>
    cases action' with
    | verify =>
      rw [hverify, normal_actionPayload_run] at h
      simp at h
    | run action' =>
      rw [normal_actionPayload_run, normal_actionPayload_run] at h
      obtain ⟨command, cwd, timeoutSec⟩ := action
      obtain ⟨command', cwd', timeoutSec'⟩ := action'
      simp only [Json.obj.injEq, List.cons.injEq, Prod.mk.injEq, Json.str.injEq, true_and,
        and_true] at h
      obtain ⟨rfl, hcwd, htimeout⟩ := h
      obtain rfl := ofOption_str_inj hcwd
      obtain rfl := ofOption_number_inj htimeout
      rfl

section Injective

variable {hexdigest : Hexdigest} {scope scope' : ReplayScope} {actions actions' : List EnvAction}

/-- A text is split at its first bar. -/
theorem append_bar_inj {digest digest' rest rest' : List Char} (h : '|' ∉ digest)
    (h' : '|' ∉ digest') (heq : digest ++ '|' :: rest = digest' ++ '|' :: rest') :
    digest = digest' ∧ rest = rest' := by
  induction digest generalizing digest' with
  | nil =>
    cases digest' with
    | nil => simpa using heq
    | cons c digest' =>
      obtain ⟨rfl, -⟩ := List.cons.inj heq
      exact absurd List.mem_cons_self h'
  | cons c digest ih =>
    cases digest' with
    | nil =>
      obtain ⟨rfl, -⟩ := List.cons.inj heq
      exact absurd List.mem_cons_self h
    | cons c' digest' =>
      obtain ⟨rfl, htail⟩ := List.cons.inj heq
      obtain ⟨rfl, hrest⟩ := ih (fun hmem ↦ h (List.mem_cons_of_mem _ hmem))
        (fun hmem ↦ h' (List.mem_cons_of_mem _ hmem)) htail
      exact ⟨rfl, hrest⟩

theorem bar_not_mem_digest (text : String) : '|' ∉ (hexdigest.digest text).toList := by
  intro hmem
  cases hexdigest.hex text '|' hmem

theorem colon_not_mem_digest (text : String) : ':' ∉ (hexdigest.digest text).toList := by
  intro hmem
  cases hexdigest.hex text ':' hmem

theorem advanceDigest_inj {text text' : String} {action action' : EnvAction} :
    advanceDigest hexdigest (hexdigest.digest text) action =
        advanceDigest hexdigest (hexdigest.digest text') action' ↔
      text = text' ∧ action = action' := by
  refine ⟨fun h ↦ ?_, fun ⟨h, h'⟩ ↦ by rw [h, h']⟩
  have happend := congrArg String.toList (hexdigest.injective h)
  rw [String.toList_append, String.toList_append, String.toList_append, String.toList_append,
    List.append_assoc, List.append_assoc] at happend
  obtain ⟨hdigest, haction⟩ :=
    append_bar_inj (bar_not_mem_digest text) (bar_not_mem_digest text') happend
  exact ⟨hexdigest.injective (String.toList_inj.mp hdigest),
    canonicalAction_inj.mp (String.toList_inj.mp haction)⟩

/-- The digest of a scope is not the digest of a chain with an action. -/
theorem scopeDigest_ne_advanceDigest (text : String) (action : EnvAction) :
    scopeDigest hexdigest scope ≠ advanceDigest hexdigest (hexdigest.digest text) action := by
  intro h
  have happend := congrArg String.toList (hexdigest.injective h)
  have hscope : ∃ tail, (canonicalScope scope).toList = '{' :: tail := by
    rw [canonicalScope, Json.dumps, String.toList_ofList]
    exact ⟨_, rfl⟩
  obtain ⟨tail, hscope⟩ := hscope
  rw [hscope, String.toList_append, String.toList_append, List.append_assoc] at happend
  cases hdigest : (hexdigest.digest text).toList with
  | nil =>
    rw [hdigest] at happend
    cases happend
  | cons c digest =>
    rw [hdigest] at happend
    obtain ⟨rfl, -⟩ := List.cons.inj happend
    cases hexdigest.hex text '{' (by rw [hdigest]; exact List.mem_cons_self)

variable (hexdigest) in
/-- A digest of a chain is a digest of a text. -/
theorem exists_chainDigest (scope : ReplayScope) (actions : List EnvAction) :
    ∃ text, chainDigest hexdigest scope actions = hexdigest.digest text := by
  induction actions using List.reverseRecOn with
  | nil => exact ⟨_, rfl⟩
  | append_singleton actions action _ => exact ⟨_, List.foldl_concat _ _ _ _⟩

theorem chainDigest_snoc (scope : ReplayScope) (actions : List EnvAction) (action : EnvAction) :
    chainDigest hexdigest scope (actions ++ [action]) =
      advanceDigest hexdigest (chainDigest hexdigest scope actions) action :=
  List.foldl_concat _ _ _ _

/-- **A digest is the digest of one chain.** -/
theorem chainDigest_inj : chainDigest hexdigest scope actions = chainDigest hexdigest scope' actions' ↔
    scope = scope' ∧ actions = actions' := by
  refine ⟨fun h ↦ ?_, fun ⟨h, h'⟩ ↦ by rw [h, h']⟩
  induction actions using List.reverseRecOn generalizing actions' with
  | nil =>
    cases actions' using List.reverseRecOn with
    | nil => exact ⟨canonicalScope_inj.mp (hexdigest.injective h), rfl⟩
    | append_singleton actions' action' =>
      obtain ⟨text, htext⟩ := exists_chainDigest hexdigest scope' actions'
      rw [chainDigest_snoc, htext] at h
      exact absurd h (scopeDigest_ne_advanceDigest text action')
  | append_singleton actions action ih =>
    obtain ⟨text, htext⟩ := exists_chainDigest hexdigest scope actions
    rw [chainDigest_snoc, htext] at h
    cases actions' using List.reverseRecOn with
    | nil => exact absurd h.symm (scopeDigest_ne_advanceDigest text action)
    | append_singleton actions' action' =>
      obtain ⟨text', htext'⟩ := exists_chainDigest hexdigest scope' actions'
      rw [chainDigest_snoc, htext'] at h
      obtain ⟨rfl, rfl⟩ := advanceDigest_inj.mp h
      obtain ⟨rfl, rfl⟩ := ih (htext.trans htext'.symm)
      exact ⟨rfl, rfl⟩

theorem keyOf_inj {digest digest' : String} (h : keyOf digest = keyOf digest') :
    digest = digest' := by
  have happend := congrArg String.toList h
  rw [keyOf, keyOf, String.toList_append, String.toList_append] at happend
  exact String.toList_inj.mp (List.append_cancel_left happend)

/-- **A key names one chain of one scope.** -/
theorem stepKey_inj : stepKey hexdigest scope actions = stepKey hexdigest scope' actions' ↔
    scope = scope' ∧ actions = actions' :=
  ⟨fun h ↦ chainDigest_inj.mp (keyOf_inj h), fun ⟨h, h'⟩ ↦ by rw [h, h']⟩

theorem blockedKey_inj {key key' : String} : blockedKey key = blockedKey key' ↔ key = key' := by
  refine ⟨fun h ↦ ?_, fun h ↦ by rw [h]⟩
  have happend := congrArg String.toList h
  rw [blockedKey, blockedKey, String.toList_append, String.toList_append] at happend
  exact String.toList_inj.mp (List.append_cancel_right happend)

/-- A marker is not a row of a step. -/
theorem blockedKey_ne_stepKey (key : String) :
    blockedKey key ≠ stepKey hexdigest scope actions := by
  intro h
  obtain ⟨text, htext⟩ := exists_chainDigest hexdigest scope actions
  have hmem : 'y' ∈ (blockedKey key).toList := by
    rw [blockedKey, String.toList_append]
    exact List.mem_append_right _ (by decide)
  rw [h, stepKey, keyOf, htext, String.toList_append] at hmem
  rcases List.mem_append.mp hmem with hmem | hmem
  · exact absurd hmem (by decide)
  · cases hexdigest.hex text 'y' hmem

end Injective

/-! ## A digest -/

/-- A hexadecimal digit. -/
def hexDigit (n : ℕ) : Char := Char.ofNat (if n < 10 then 48 + n else 87 + n)

theorem hexDigit_spec : ∀ n < 16, isHex (hexDigit n) = true ∧
    ∀ m < 16, hexDigit n = hexDigit m → n = m := by
  decide

/-- The code point of a character, in six digits. -/
def spellChar (c : Char) : List Char :=
  [1048576, 65536, 4096, 256, 16, 1].map fun place ↦ hexDigit (c.toNat / place % 16)

theorem spellChar_inj {c c' : Char} (h : spellChar c = spellChar c') : c = c' := by
  simp only [spellChar, List.map_cons, List.map_nil, List.cons.injEq, and_true] at h
  have hdigit : ∀ m n, hexDigit (m % 16) = hexDigit (n % 16) → m % 16 = n % 16 := fun m n ↦
    (hexDigit_spec (m % 16) (Nat.mod_lt m (by decide))).2 _ (Nat.mod_lt n (by decide))
  obtain ⟨h₅, h₄, h₃, h₂, h₁, h₀⟩ := h
  have hlt : ∀ c : Char, c.toNat < 1114112 := fun c ↦ c.valid.elim (fun h ↦ by
    have : c.toNat < 55296 := h
    omega) fun h ↦ h.2
  have := hlt c
  have := hlt c'
  have := hdigit _ _ h₅
  have := hdigit _ _ h₄
  have := hdigit _ _ h₃
  have := hdigit _ _ h₂
  have := hdigit _ _ h₁
  have := hdigit _ _ h₀
  exact Char.toNat_inj.mp (by omega)

theorem flatMap_spellChar_inj {text text' : List Char}
    (h : text.flatMap spellChar = text'.flatMap spellChar) : text = text' := by
  induction text generalizing text' with
  | nil => cases text' with
    | nil => rfl
    | cons c' text' => cases h
  | cons c text ih => cases text' with
    | nil => cases h
    | cons c' text' =>
      rw [List.flatMap_cons, List.flatMap_cons] at h
      obtain ⟨hchar, hrest⟩ := List.append_inj h rfl
      rw [spellChar_inj hchar, ih hrest]

/-- The assumptions on the digest can be met: a digest that spells the text out. -/
def Hexdigest.spelled : Hexdigest where
  digest text := String.ofList (text.toList.flatMap spellChar)
  injective text text' h := by
    refine String.toList_inj.mp (flatMap_spellChar_inj ?_)
    simpa using congrArg String.toList h
  hex text c hc := by
    rw [String.toList_ofList] at hc
    obtain ⟨d, -, hc⟩ := List.mem_flatMap.mp hc
    obtain ⟨place, -, rfl⟩ := List.mem_map.mp hc
    exact (hexDigit_spec _ (Nat.mod_lt _ (by decide))).1

end HarnessTraining
