import HarnessTraining.Library.PyJson.RoundTrip
import Mathlib.Data.List.TakeWhile

/-!
# What is loaded is tidy

`json.loads` returns tidy values only, if its text has an encoding: a surrogate can then come from an
escape only, and the scanner joins a pair of those.

* `Gives` — what a scanner returns, with its rules;
* `tidy_of_loads` — every value of a text comes back from every layout.
-/

set_option autoImplicit false

open Python

namespace PyJson

/-! ## Digits -/

theorem length_decDigits : ∀ {fuel n k : ℕ}, 0 < k → n < 10 ^ k → (Json.decDigits fuel n).length ≤ k
  | 0, _, _, hk, _ => hk
  | fuel + 1, n, k, hk, hn => by
    rw [Json.decDigits]
    split
    · exact hk
    · next hlarge =>
      obtain ⟨k, rfl⟩ := Nat.exists_eq_succ_of_ne_zero hk.ne'
      have hpos : 0 < k := by
        by_contra hzero
        obtain rfl : k = 0 := by omega
        rw [Nat.succ_eq_add_one, zero_add, pow_one] at hn
        exact hlarge hn
      rw [Nat.succ_eq_add_one, pow_succ] at hn
      rw [List.length_append, List.length_singleton]
      exact Nat.succ_le_succ (length_decDigits hpos (by omega))

theorem ofDigits_lt {digits : List Char} (h : ∀ c ∈ digits, Json.isDigit c = true) :
    Json.ofDigits digits < 10 ^ digits.length := by
  induction digits using List.reverseRecOn with
  | nil => decide
  | append_singleton digits c ih =>
    rw [List.forall_mem_append, List.forall_mem_singleton] at h
    have hdigit : c.toNat - 48 ≤ 9 := by
      have hc := h.2
      rw [Json.isDigit, Bool.and_eq_true, decide_eq_true_eq, decide_eq_true_eq] at hc
      have : c.toNat ≤ '9'.toNat := hc.2
      have hnine : '9'.toNat = 57 := rfl
      omega
    have := ih h.1
    rw [Json.ofDigits_concat, List.length_append, List.length_singleton, pow_succ]
    omega

theorem lt_pow_length (n : ℕ) : n < 10 ^ (Json.renderNat n).length := by
  have hdigits := @ofDigits_lt (Json.renderNat n) fun c hc ↦ Json.isDigit_of_mem_decDigits hc
  rwa [Json.renderNat, Json.ofDigits_decDigits le_rfl] at hdigits

theorem length_renderNat_of_parseNat {cs rest : List Char} {n : ℕ}
    (h : Json.parseNat cs = some (n, rest)) :
    (Json.renderNat n).length ≤ (cs.takeWhile Json.isDigit).length := by
  rw [Json.parseNat.eq_def] at h
  split at h
  · obtain ⟨rfl, -⟩ := Prod.mk.inj (Option.some.inj h)
    rw [List.takeWhile_cons_of_pos (by decide)]
    exact Nat.succ_le_succ (Nat.zero_le _)
  · split at h
    · cases h
    · next hne =>
      obtain ⟨rfl, -⟩ := Prod.mk.inj (Option.some.inj h)
      exact length_decDigits (List.length_pos_iff.mpr fun hnil ↦ hne (List.isEmpty_iff.mpr hnil))
        (ofDigits_lt fun c hc ↦ List.mem_takeWhile_imp hc)

/-- An integer has no more digits than its literal. -/
theorem length_renderNat_of_parse {cs rest : List Char} {z : ℤ}
    (h : Json.parseNumber cs = some (.int z, rest)) :
    (Json.renderNat z.natAbs).length ≤ integerDigits cs := by
  rcases hsign : Json.splitSign cs with ⟨negative, unsigned⟩
  rw [Json.parseNumber, hsign] at h
  rw [integerDigits, hsign]
  dsimp only at h
  obtain ⟨⟨n, afterInt⟩, hnat, h⟩ := Option.bind_eq_some_iff.mp h
  have hz : z.natAbs = n := by
    dsimp only at h
    split at h
    · cases Option.some.inj h
    · split at h
      · next hfraction =>
        obtain ⟨hz, -⟩ := Prod.mk.inj (Option.some.inj h)
        obtain rfl := Json.int.inj hz
        rw [List.isEmpty_iff.mp hfraction, Json.applySign]
        split
        · simp [Json.ofDigits]
        · simp [Json.ofDigits]
      · cases Option.some.inj h
  rw [hz]
  exact length_renderNat_of_parseNat hnat

/-! ## Code points -/

theorem encodable_cons {point : CodePoint} {text : Text} :
    encodable (point :: text) = true ↔ point.isScalar = true ∧ encodable text = true := by
  rw [encodable, List.all_cons, Bool.and_eq_true]
  exact Iff.rfl

theorem encodable_suffix {text rest : Text} (h : encodable text = true) (hrest : rest <:+ text) :
    encodable rest = true :=
  List.all_eq_true.mpr fun point hpoint ↦ List.all_eq_true.mp h point (hrest.subset hpoint)

theorem dropWord_suffix : ∀ {word : List Char} {text rest : Text}, dropWord word text = some rest →
    rest <:+ text
  | [], text, rest, h => by
    obtain rfl := Option.some.inj h
    exact List.suffix_rfl
  | _ :: word, .scalar c' :: text, rest, h => by
    rw [dropWord] at h
    split at h
    · exact (dropWord_suffix h).trans (List.suffix_cons _ _)
    · cases h
  | _ :: _, [], _, h => by cases h
  | _ :: _, .surrogate _ :: _, _, h => by cases h

theorem readUnit_suffix {text rest : Text} {unit : ℕ} (h : readUnit text = some (unit, rest)) :
    rest <:+ text := by
  rw [readUnit.eq_def] at h
  split at h
  · next a b c d rest' =>
    obtain ⟨_, _, h⟩ := Option.map_eq_some_iff.mp h
    obtain ⟨-, rfl⟩ := Prod.mk.inj h
    exact ⟨[.scalar a, .scalar b, .scalar c, .scalar d], rfl⟩
  · cases h

theorem readLow_eq_some {text rest : Text} {unit : ℕ} (h : readLow text = some (unit, rest)) :
    rest <:+ text := by
  obtain ⟨after, hword, h⟩ := Option.bind_eq_some_iff.mp h
  obtain ⟨⟨unit', rest'⟩, hunit, h⟩ := Option.bind_eq_some_iff.mp h
  dsimp only at h
  split at h
  · obtain ⟨-, rfl⟩ := Prod.mk.inj (Option.some.inj h)
    exact (readUnit_suffix hunit).trans (dropWord_suffix hword)
  · cases h

theorem not_high_scalar (c : Char) : ¬high (.scalar c) := by
  rintro ⟨n, ⟨⟩, -⟩

theorem not_low_scalar (c : Char) : ¬low (.scalar c) := by
  rintro ⟨n, ⟨⟩, -⟩

/-- A byte is escaped to a low half. -/
theorem not_high_escapeByte (b : UInt8) : ¬high (escapeByte b) := by
  rintro ⟨n, heq, hn⟩
  have hlow := congrArg Fin.val (CodePoint.surrogate.inj heq)
  have hb := b.toNat_lt
  dsimp only at hlow
  omega

theorem not_high_decodeWith : ∀ (fuel : ℕ) (bytes : Bytes), ∀ point ∈ decodeWith fuel bytes, ¬high point
  | 0, _, _, h => by cases h
  | _ + 1, [], _, h => by cases h
  | fuel + 1, a :: rest, point, h => by
    rw [decodeWith] at h
    split at h
    · rcases List.mem_cons.mp h with rfl | h
      · exact not_high_scalar _
      · exact not_high_decodeWith fuel _ point h
    · rcases List.mem_cons.mp h with rfl | h
      · exact not_high_escapeByte a
      · exact not_high_decodeWith fuel _ point h

/-- A text that was decoded comes back from JSON. -/
theorem noPair_decode (bytes : Bytes) : NoPair (decode bytes) := by
  rw [NoPair, decode]
  refine List.Pairwise.isChain (List.pairwise_of_forall_mem_list fun point hpoint _ _ h ↦ ?_)
  exact not_high_decodeWith _ _ point hpoint h.1

theorem high_ofUnit {unit : ℕ} (h : high (ofUnit unit)) : 0xd800 ≤ unit ∧ unit < 0xdc00 := by
  rw [ofUnit] at h
  split at h
  · next hrange =>
    obtain ⟨n, hn, hlt⟩ := h
    obtain rfl := CodePoint.surrogate.inj hn
    dsimp only at hlt
    omega
  · exact absurd h (not_high_scalar _)

theorem low_ofUnit {unit : ℕ} (h : low (ofUnit unit)) : 0xdc00 ≤ unit ∧ unit < 0xe000 := by
  rw [ofUnit] at h
  split at h
  · next hrange =>
    obtain ⟨n, hn, hle⟩ := h
    obtain rfl := CodePoint.surrogate.inj hn
    dsimp only at hle
    omega
  · exact absurd h (not_low_scalar _)

/-- What an escape stands for: half of a pair only where the other half does not follow. -/
theorem readEscapedUnit_spec {text rest : Text} {point : CodePoint}
    (h : readEscapedUnit text = some (point, rest)) :
    rest <:+ text ∧ Alone point rest ∧
      (low point → readLow (.scalar '\\' :: .scalar 'u' :: text) ≠ none) := by
  obtain ⟨⟨unit, after⟩, hunit, h⟩ := Option.bind_eq_some_iff.mp h
  dsimp only at h
  split at h
  · next hhigh =>
    split at h
    · next low' rest' hlow =>
      obtain ⟨rfl, rfl⟩ := Prod.mk.inj (Option.some.inj h)
      exact ⟨(readLow_eq_some hlow).trans (readUnit_suffix hunit),
        fun hpoint ↦ absurd hpoint (not_high_scalar _), fun hpoint ↦ absurd hpoint (not_low_scalar _)⟩
    · next hlow =>
      obtain ⟨rfl, rfl⟩ := Prod.mk.inj (Option.some.inj h)
      refine ⟨readUnit_suffix hunit, fun _ ↦ hlow, fun hpoint ↦ ?_⟩
      have := low_ofUnit hpoint
      omega
  · next hnot =>
    obtain ⟨rfl, rfl⟩ := Prod.mk.inj (Option.some.inj h)
    refine ⟨readUnit_suffix hunit, fun hpoint ↦ absurd (high_ofUnit hpoint) hnot, fun hpoint ↦ ?_⟩
    have hword : dropWord ['\\', 'u'] (.scalar '\\' :: .scalar 'u' :: text) = some text :=
      dropWord_chars ['\\', 'u'] text
    rw [readLow, hword, Option.bind_eq_bind, Option.bind_some, hunit, Option.bind_eq_bind,
      Option.bind_some]
    dsimp only
    rw [if_pos (low_ofUnit hpoint)]
    exact Option.some_ne_none _

theorem readPoint_suffix {text rest : Text} {point : CodePoint} (h : readPoint text = some (point, rest)) :
    rest <:+ text := by
  rw [readPoint.eq_def] at h
  split at h
  · exact (readEscapedUnit_spec h).1.trans ⟨[.scalar '\\', .scalar 'u'], rfl⟩
  · obtain ⟨-, rfl⟩ := Prod.mk.inj (Option.some.inj h)
    exact ⟨[.scalar '\\', .scalar '/'], rfl⟩
  · next letter rest' _ _ =>
    obtain ⟨escape, -, h⟩ := Option.map_eq_some_iff.mp h
    obtain ⟨-, rfl⟩ := Prod.mk.inj h
    exact ⟨[.scalar '\\', .scalar letter], rfl⟩
  · split at h
    · cases h
    · obtain ⟨-, rfl⟩ := Prod.mk.inj (Option.some.inj h)
      exact List.suffix_cons _ _
  · obtain ⟨-, rfl⟩ := Prod.mk.inj (Option.some.inj h)
    exact List.suffix_cons _ _
  · cases h

theorem readPoint_spec {text rest : Text} {point : CodePoint} (hencodable : encodable text = true)
    (h : readPoint text = some (point, rest)) :
    Alone point rest ∧ (low point → readLow text ≠ none) := by
  have hscalar {c : Char} (hpoint : .scalar c = point) :
      Alone point rest ∧ (low point → readLow text ≠ none) := by
    subst hpoint
    exact ⟨fun hhigh ↦ absurd hhigh (not_high_scalar c), fun hlow ↦ absurd hlow (not_low_scalar c)⟩
  rw [readPoint.eq_def] at h
  split at h
  · exact (readEscapedUnit_spec h).2
  · exact hscalar (Prod.mk.inj (Option.some.inj h)).1
  · obtain ⟨escape, -, h⟩ := Option.map_eq_some_iff.mp h
    exact hscalar (Prod.mk.inj h).1
  · split at h
    · cases h
    · exact hscalar (Prod.mk.inj (Option.some.inj h)).1
  · cases (encodable_cons.mp hencodable).1
  · cases h

theorem readBody_suffix : ∀ {fuel : ℕ} {text body rest : Text},
    readBody fuel text = some (body, rest) → rest <:+ text
  | 0, _, _, _, h => by cases h
  | fuel + 1, text, body, rest, h => by
    rw [readBody] at h
    split at h
    · obtain ⟨-, rfl⟩ := Prod.mk.inj (Option.some.inj h)
      exact List.tail_suffix text
    · obtain ⟨⟨point, after⟩, hpoint, h⟩ := Option.bind_eq_some_iff.mp h
      obtain ⟨⟨body', rest'⟩, hbody, h⟩ := Option.bind_eq_some_iff.mp h
      obtain ⟨-, rfl⟩ := Prod.mk.inj (Option.some.inj h)
      exact (readBody_suffix hbody).trans (readPoint_suffix hpoint)

/-- A string has no pair in a row: the scanner would have joined it. -/
theorem readBody_spec : ∀ {fuel : ℕ} {text body rest : Text}, encodable text = true →
    readBody fuel text = some (body, rest) →
      NoPair body ∧ ∀ point ∈ body.head?, low point → readLow text ≠ none
  | 0, _, _, _, _, h => by cases h
  | fuel + 1, text, body, rest, hencodable, h => by
    rw [readBody] at h
    split at h
    · obtain ⟨rfl, -⟩ := Prod.mk.inj (Option.some.inj h)
      exact ⟨.nil, by rintro point ⟨⟩⟩
    · obtain ⟨⟨point, after⟩, hpoint, h⟩ := Option.bind_eq_some_iff.mp h
      obtain ⟨⟨body', rest'⟩, hbody, h⟩ := Option.bind_eq_some_iff.mp h
      obtain ⟨rfl, -⟩ := Prod.mk.inj (Option.some.inj h)
      obtain ⟨halone, hlow⟩ := readPoint_spec hencodable hpoint
      obtain ⟨hpair, hhead⟩ :=
        readBody_spec (encodable_suffix hencodable (readPoint_suffix hpoint)) hbody
      refine ⟨List.isChain_cons.mpr ⟨fun next hnext ↦ ?_, hpair⟩, ?_⟩
      · rintro ⟨hhigh, hnextLow⟩
        exact hhead next hnext hnextLow (halone hhigh)
      · rintro first ⟨⟩
        exact hlow

/-! ## The rules of scanners -/

section Gives

variable {α β : Type} {ok : Text → Prop} {scan : Scan α} {f : α → Scan β} {P : α → Prop} {Q : β → Prop}

/-- Whatever a scanner returns for a text that is `ok` satisfies `P`, if it converts no integer that is
too long; it returns the end of its text. -/
def Gives (ok : Text → Prop) (P : α → Prop) (scan : Scan α) : Prop :=
  ∀ text digits a rest, ok text → scan text = (digits, some (a, rest)) →
    (∀ n ∈ digits, n ≤ MAX_STR_DIGITS) → rest <:+ text ∧ P a

theorem Gives.pure {a : α} (h : P a) : Gives ok P (Pure.pure a : Scan α) := by
  rintro text digits a' rest - ⟨⟩ -
  exact ⟨List.suffix_rfl, h⟩

theorem Gives.fail : Gives ok P Scan.fail := by
  rintro text digits a rest - ⟨⟩

theorem Gives.bind (hok : ∀ text rest, ok text → rest <:+ text → ok rest) (h : Gives ok P scan)
    (hf : ∀ a, P a → Gives ok Q (f a)) : Gives ok Q (scan >>= f) := by
  intro text digits b rest htext hscan hdigits
  change Scan.andThen scan f text = _ at hscan
  rw [Scan.andThen] at hscan
  rcases hfirst : scan text with ⟨digits', _ | ⟨a, middle⟩⟩
  · rw [hfirst] at hscan
    cases hscan
  · rw [hfirst] at hscan
    obtain ⟨rfl, hsecond⟩ := Prod.mk.inj hscan
    rw [List.forall_mem_append] at hdigits
    obtain ⟨hmiddle, ha⟩ := h text digits' a middle htext hfirst hdigits.1
    obtain ⟨hrest, hb⟩ := hf a ha middle _ b rest (hok text middle htext hmiddle)
      (Prod.ext rfl hsecond) hdigits.2
    exact ⟨hrest.trans hmiddle, hb⟩

theorem gives_ofOption {read : Text → Option (α × Text)}
    (h : ∀ text a rest, ok text → read text = some (a, rest) → rest <:+ text ∧ P a) :
    Gives ok P (.ofOption read) := by
  intro text digits a rest htext hscan _
  exact h text a rest htext (congrArg Prod.snd hscan)

theorem gives_peek : Gives ok (fun _ ↦ True) peek := by
  rintro text digits a rest - ⟨⟩ -
  exact ⟨List.suffix_rfl, trivial⟩

theorem gives_space : Gives ok (fun _ ↦ True) space := by
  rintro text digits a rest - ⟨⟩ -
  exact ⟨List.dropWhile_suffix _, trivial⟩

theorem gives_expect (c : Char) : Gives ok (fun _ ↦ True) (expect c) := by
  refine gives_ofOption fun text a rest _ h ↦ ⟨?_, trivial⟩
  obtain ⟨rest', hword, h⟩ := Option.map_eq_some_iff.mp h
  obtain ⟨-, rfl⟩ := Prod.mk.inj h
  exact dropWord_suffix hword

end Gives

/-! ## Dictionaries -/

section Dictionaries

variable {α : Type} {key : Text} {value : α}

theorem mem_of_get? {dict : List (Text × α)} (h : get? key dict = some value) : (key, value) ∈ dict := by
  obtain ⟨before, after, rfl, -⟩ := List.lookup_eq_some_iff.mp h
  exact List.mem_append_right _ List.mem_cons_self

theorem get?_setItem {key' : Text} : ∀ {dict : List (Text × α)},
    get? key (setItem key' value dict) =
      if key = key' then some value else get? key dict
  | [] => by
    rw [setItem, get?, get?, List.lookup_cons, List.lookup_nil]
    by_cases hkey : key = key'
    · simp [hkey]
    · simp [hkey, beq_false_of_ne hkey]
  | member :: dict => by
    have ih : (setItem key' value dict).lookup key = if key = key' then some value else dict.lookup key :=
      get?_setItem
    rw [setItem, get?, get?]
    split
    · next hmember =>
      obtain rfl := hmember
      rw [List.lookup_cons, List.lookup_cons]
      by_cases hkey : key = member.1
      · simp [hkey]
      · simp [hkey, beq_false_of_ne hkey]
    · next hmember =>
      rw [List.lookup_cons, List.lookup_cons, ih]
      by_cases hkey : key = member.1
      · have hne : key ≠ key' := fun h ↦ hmember (hkey.symm.trans h)
        simp [hkey, hmember]
      · simp [beq_false_of_ne hkey]

theorem mem_setItem {member : Text × α} : ∀ {dict : List (Text × α)},
    member ∈ setItem key value dict → member = (key, value) ∨ member ∈ dict
  | [], h => Or.inl (List.mem_singleton.mp h)
  | first :: dict, h => by
    rw [setItem] at h
    split at h
    · exact (List.mem_cons.mp h).imp_right (List.mem_cons_of_mem _)
    · rcases List.mem_cons.mp h with rfl | h
      · exact Or.inr List.mem_cons_self
      · exact (mem_setItem h).imp_right (List.mem_cons_of_mem _)

theorem nodup_setItem : ∀ {dict : List (Text × α)}, (dict.map Prod.fst).Nodup →
    ((setItem key value dict).map Prod.fst).Nodup
  | [], _ => List.nodup_singleton _
  | first :: dict, h => by
    rw [List.map_cons, List.nodup_cons] at h
    rw [setItem]
    split
    · next hkey =>
      rw [List.map_cons, List.nodup_cons, ← hkey]
      exact h
    · next hkey =>
      rw [List.map_cons, List.nodup_cons]
      refine ⟨fun hmem ↦ ?_, nodup_setItem h.2⟩
      obtain ⟨member, hmember, hfirst⟩ := List.mem_map.mp hmem
      rcases mem_setItem hmember with rfl | hmember
      · exact hkey hfirst.symm
      · exact h.1 (hfirst ▸ List.mem_map_of_mem hmember)

/-- A dictionary has a key once, and only what was put into it. -/
theorem dictOf_spec (members : List (Text × α)) :
    ((dictOf members).map Prod.fst).Nodup ∧ ∀ member ∈ dictOf members, member ∈ members := by
  rw [dictOf]
  induction members using List.reverseRecOn with
  | nil => exact ⟨List.nodup_nil, by simp⟩
  | append_singleton members member ih =>
    rw [List.foldl_append, List.foldl_cons, List.foldl_nil]
    refine ⟨nodup_setItem ih.1, fun member' hmember' ↦ ?_⟩
    rcases mem_setItem hmember' with rfl | hmember'
    · exact List.mem_append_right _ (List.mem_singleton_self _)
    · exact List.mem_append_left _ (ih.2 member' hmember')

end Dictionaries

/-! ## Values -/

section Values

variable {ok T : Text → Prop}

theorem withinMembers_iff {members : List (Text × PyJson)} :
    WithinMembers T members ↔ ∀ member ∈ members, T member.1 ∧ Within T member.2 := by
  induction members with
  | nil => exact iff_of_true trivial (by simp)
  | cons member members ih => rw [WithinMembers, ih, List.forall_mem_cons]

theorem within_dictOf {members : List (Text × PyJson)} (h : WithinMembers T members) :
    Within T (.obj (dictOf members)) := by
  obtain ⟨hnodup, hmem⟩ := dictOf_spec members
  exact ⟨hnodup, withinMembers_iff.mpr fun member hmember ↦
    withinMembers_iff.mp h member (hmem member hmember)⟩

theorem gives_scanNumber : Gives ok (Within T) scanNumber := by
  intro text digits value rest _ h hdigits
  rw [scanNumber] at h
  split at h
  · next z rest' hnumber =>
    obtain ⟨rfl, hread⟩ := Prod.mk.inj h
    obtain ⟨rfl, rfl⟩ := Prod.mk.inj (Option.some.inj hread)
    rw [List.forall_mem_singleton] at hdigits
    exact ⟨List.drop_suffix _ _, (length_renderNat_of_parse hnumber).trans hdigits⟩
  · obtain ⟨-, h⟩ := Prod.mk.inj h
    obtain ⟨rfl, rfl⟩ := Prod.mk.inj (Option.some.inj h)
    exact ⟨List.drop_suffix _ _, trivial⟩
  · obtain ⟨-, h⟩ := Prod.mk.inj h
    cases h

theorem gives_scanWord : Gives ok (Within T) scanWord := by
  intro text digits value rest htext h hdigits
  rw [scanWord] at h
  split at h
  · next found hfound =>
    obtain ⟨-, h⟩ := Prod.mk.inj h
    obtain rfl := Option.some.inj h
    obtain ⟨word, hword, hmap⟩ := List.exists_of_findSome?_eq_some hfound
    obtain ⟨rest', hdrop, hpair⟩ := Option.map_eq_some_iff.mp hmap
    obtain ⟨rfl, rfl⟩ := Prod.mk.inj hpair
    refine ⟨dropWord_suffix hdrop, ?_⟩
    simp only [words, List.mem_cons, List.not_mem_nil, or_false] at hword
    obtain rfl | rfl | rfl | rfl | rfl | rfl := hword
    all_goals exact trivial
  · exact gives_scanNumber text digits value rest htext h hdigits

/-- What the scanners with `fuel` left return. -/
structure GivesWithin (ok T : Text → Prop) (fuel : ℕ) : Prop where
  value : Gives ok (Within T) (scanValue fuel)
  items : Gives ok (WithinItems T) (scanItems fuel)
  member : Gives ok (fun member ↦ T member.1 ∧ Within T member.2) (scanMember fuel)
  members : Gives ok (WithinMembers T) (scanMembers fuel)

variable (hok : ∀ text rest, ok text → rest <:+ text → ok rest) (hstring : Gives ok T scanString)

include hok hstring

theorem GivesWithin.scanValue {fuel : ℕ} (h : GivesWithin ok T fuel) :
    Gives ok (Within T) (scanValue (fuel + 1)) := by
  rw [PyJson.scanValue]
  refine Gives.bind hok gives_peek fun next _ ↦ ?_
  split
  · exact Gives.bind hok hstring fun text htext ↦ Gives.pure htext
  · refine Gives.bind hok (gives_expect _) fun _ _ ↦ Gives.bind hok gives_space fun _ _ ↦
      Gives.bind hok gives_peek fun next _ ↦ ?_
    split
    · exact Gives.bind hok (gives_expect _) fun _ _ ↦ Gives.pure trivial
    · exact Gives.bind hok h.value fun item hitem ↦ Gives.bind hok h.items fun items hitems ↦
        Gives.pure ⟨hitem, hitems⟩
  · refine Gives.bind hok (gives_expect _) fun _ _ ↦ Gives.bind hok gives_space fun _ _ ↦
      Gives.bind hok gives_peek fun next _ ↦ ?_
    split
    · exact Gives.bind hok (gives_expect _) fun _ _ ↦ Gives.pure ⟨List.nodup_nil, trivial⟩
    · exact Gives.bind hok h.member fun member hmember ↦ Gives.bind hok h.members fun members hmembers ↦
        Gives.pure (within_dictOf ⟨hmember, hmembers⟩)
  · exact gives_scanWord

omit hstring in
theorem GivesWithin.scanItems {fuel : ℕ} (h : GivesWithin ok T fuel) :
    Gives ok (WithinItems T) (scanItems (fuel + 1)) := by
  rw [PyJson.scanItems]
  refine Gives.bind hok gives_space fun _ _ ↦ Gives.bind hok gives_peek fun next _ ↦ ?_
  split
  · exact Gives.bind hok (gives_expect _) fun _ _ ↦ Gives.pure trivial
  · exact Gives.bind hok (gives_expect _) fun _ _ ↦ Gives.bind hok gives_space fun _ _ ↦
      Gives.bind hok h.value fun item hitem ↦ Gives.bind hok h.items fun items hitems ↦
        Gives.pure ⟨hitem, hitems⟩

theorem GivesWithin.scanMember {fuel : ℕ} (h : GivesWithin ok T fuel) :
    Gives ok (fun member ↦ T member.1 ∧ Within T member.2) (scanMember (fuel + 1)) := by
  rw [PyJson.scanMember]
  exact Gives.bind hok hstring fun key hkey ↦ Gives.bind hok gives_space fun _ _ ↦
    Gives.bind hok (gives_expect _) fun _ _ ↦ Gives.bind hok gives_space fun _ _ ↦
      Gives.bind hok h.value fun value hvalue ↦ Gives.pure ⟨hkey, hvalue⟩

omit hstring in
theorem GivesWithin.scanMembers {fuel : ℕ} (h : GivesWithin ok T fuel) :
    Gives ok (WithinMembers T) (scanMembers (fuel + 1)) := by
  rw [PyJson.scanMembers]
  refine Gives.bind hok gives_space fun _ _ ↦ Gives.bind hok gives_peek fun next _ ↦ ?_
  split
  · exact Gives.bind hok (gives_expect _) fun _ _ ↦ Gives.pure trivial
  · exact Gives.bind hok (gives_expect _) fun _ _ ↦ Gives.bind hok gives_space fun _ _ ↦
      Gives.bind hok h.member fun member hmember ↦ Gives.bind hok h.members fun members hmembers ↦
        Gives.pure ⟨hmember, hmembers⟩

theorem givesWithin : ∀ fuel : ℕ, GivesWithin ok T fuel
  | 0 => ⟨.fail, .fail, .fail, .fail⟩
  | fuel + 1 =>
    have h := givesWithin fuel
    ⟨h.scanValue hok hstring, h.scanItems hok, h.scanMember hok hstring, h.scanMembers hok⟩

/-- What is loaded is within the bounds, as soon as its texts are. -/
theorem within_of_loads {text : Text} {value : PyJson} (htext : ok text)
    (h : loads text = .ok value) : Within T value := by
  rw [loads] at h
  split at h
  · cases h
  · next hshort =>
    rw [integerLiterals] at hshort
    rcases hscan : scanDocument (text.length + 1) text with ⟨digits, _ | ⟨value', rest⟩⟩
    · rw [hscan] at h
      cases h
    · rw [hscan] at h hshort
      obtain rfl := Except.ok.inj h
      have hgives : Gives ok (Within T) (scanDocument (text.length + 1)) := by
        refine Gives.bind hok gives_space fun _ _ ↦
          Gives.bind hok (givesWithin hok hstring _).value fun value hvalue ↦
            Gives.bind hok gives_space fun _ _ ↦ Gives.bind hok gives_peek fun next _ ↦ ?_
        split
        · exact Gives.pure hvalue
        · exact Gives.fail
      refine (hgives text digits value' rest htext hscan fun n hn ↦ ?_).2
      exact not_lt.mp fun hlong ↦ hshort ⟨n, hn, hlong⟩

end Values

theorem gives_scanString : Gives (fun text ↦ encodable text = true) NoPair scanString := by
  refine gives_ofOption fun text body rest hencodable h ↦ ?_
  obtain ⟨after, hword, hbody⟩ := Option.bind_eq_some_iff.mp h
  have hafter := dropWord_suffix hword
  obtain ⟨hpair, -⟩ := readBody_spec (encodable_suffix hencodable hafter) hbody
  exact ⟨(readBody_suffix hbody).trans hafter, hpair⟩

/-- **What is loaded is tidy**, so it comes back from every layout. -/
theorem tidy_of_loads {text : Text} {value : PyJson} (hencodable : encodable text = true)
    (h : loads text = .ok value) : Tidy value :=
  within_of_loads (fun _ _ ↦ encodable_suffix) gives_scanString hencodable h

theorem gives_anyString : Gives (fun _ ↦ True) (fun _ ↦ True) scanString := by
  refine gives_ofOption fun text body rest _ h ↦ ⟨?_, trivial⟩
  obtain ⟨after, hword, hbody⟩ := Option.bind_eq_some_iff.mp h
  exact (readBody_suffix hbody).trans (dropWord_suffix hword)

mutual

theorem Within.writable {T : Text → Prop} : ∀ {value : PyJson}, Within T value → Writable value
  | .int _, h, _, hdigits => List.mem_singleton.mp hdigits ▸ h
  | .arr _, h, digits, hdigits => WithinItems.integers_le h digits hdigits
  | .obj _, h, digits, hdigits => WithinMembers.integers_le h.2 digits hdigits
  | .null, _, _, hdigits | .bool _, _, _, hdigits | .float _, _, _, hdigits | .const _, _, _, hdigits
  | .str _, _, _, hdigits => by cases hdigits

theorem WithinItems.integers_le {T : Text → Prop} : ∀ {items : List PyJson}, WithinItems T items →
    ∀ digits ∈ integersOfItems items, digits ≤ MAX_STR_DIGITS
  | [], _, _, hdigits => by cases hdigits
  | _ :: _, h, digits, hdigits => (List.mem_append.mp hdigits).elim
      (Within.writable h.1 digits) (WithinItems.integers_le h.2 digits)

theorem WithinMembers.integers_le {T : Text → Prop} : ∀ {members : List (Text × PyJson)},
    WithinMembers T members → ∀ digits ∈ integersOfMembers members, digits ≤ MAX_STR_DIGITS
  | [], _, _, hdigits => by cases hdigits
  | (_, _) :: _, h, digits, hdigits => (List.mem_append.mp hdigits).elim
      (Within.writable h.1.2 digits) (WithinMembers.integers_le h.2 digits)

end

/-- What is loaded can be written. -/
theorem writable_of_loads {text : Text} {value : PyJson} (h : loads text = .ok value) :
    Writable value := by
  have hwithin : Within (fun _ ↦ True) value :=
    within_of_loads (fun _ _ _ _ ↦ trivial) gives_anyString trivial h
  exact hwithin.writable

theorem not_writable_int {z : ℤ} (hz : 10 ^ MAX_STR_DIGITS ≤ z.natAbs) : ¬Writable (.int z) := by
  intro hshort
  have hlength := hshort _ (List.mem_singleton_self _)
  exact absurd (lt_pow_length z.natAbs) (not_lt.mpr ((Nat.pow_le_pow_right (by decide) hlength).trans hz))

end PyJson
