import HarnessTraining.Library.PyJson
import Mathlib.Data.List.Chain

/-!
# What is dumped is loaded

A value comes back from every layout if it is tidy: its integers are short enough to be read, no text
has the two halves of a pair in a row, and no object has a key twice.

* `Reads` — a scanner reads a value, with its rules;
* `loads_dumps` — the round trip.
-/

set_option autoImplicit false

open Python

namespace PyJson

/-! ## Values that come back -/

def high (point : CodePoint) : Prop := ∃ n : Fin 0x800, point = .surrogate n ∧ n.val < 0x400

def low (point : CodePoint) : Prop := ∃ n : Fin 0x800, point = .surrogate n ∧ 0x400 ≤ n.val

/-- No two halves of a pair in a row: they would come back as one code point. -/
def NoPair (text : Text) : Prop := text.IsChain fun point point' ↦ ¬(high point ∧ low point')

theorem noPair_of_encodable : ∀ {text : Text}, encodable text = true → NoPair text
  | [], _ => List.IsChain.nil
  | [_], _ => List.IsChain.singleton _
  | point :: point' :: text, h => by
    rw [encodable, List.all_cons, Bool.and_eq_true] at h
    refine List.IsChain.cons_cons ?_ (noPair_of_encodable h.2)
    rintro ⟨⟨n, rfl, -⟩, -⟩
    cases h.1

theorem noPair_ofString (s : String) : NoPair (ofString s) :=
  noPair_of_encodable (encodable_ofString s)

section Within

variable (T : Text → Prop)

mutual

/-- The integers of a value are short enough to be converted, its texts satisfy `T`, and no object has
a key twice. -/
def Within : PyJson → Prop
  | .int z => (Json.renderNat z.natAbs).length ≤ MAX_STR_DIGITS
  | .str text => T text
  | .arr items => WithinItems items
  | .obj members => (members.map Prod.fst).Nodup ∧ WithinMembers members
  | _ => True

def WithinItems : List PyJson → Prop
  | [] => True
  | item :: items => Within item ∧ WithinItems items

def WithinMembers : List (Text × PyJson) → Prop
  | [] => True
  | (key, value) :: members => (T key ∧ Within value) ∧ WithinMembers members

end

end Within

/-- The values that come back. -/
abbrev Tidy : PyJson → Prop := Within NoPair

abbrev TidyItems : List PyJson → Prop := WithinItems NoPair

abbrev TidyMembers : List (Text × PyJson) → Prop := WithinMembers NoPair

/-! ## Code points read back -/

/-- A text of characters. -/
abbrev chars (cs : List Char) : Text := cs.map .scalar

theorem dropWord_chars : ∀ (word : List Char) (rest : Text), dropWord word (chars word ++ rest) = some rest
  | [], _ => rfl
  | c :: word, rest => by
    change (if c = c then dropWord word (chars word ++ rest) else none) = _
    rw [if_pos rfl, dropWord_chars word rest]

theorem readUnit_render {n : ℕ} (hn : n < 65536) (rest : Text) :
    readUnit (chars ((Json.renderUnit n).drop 2) ++ rest) = some (n, rest) := by
  have hunit := Json.parseUnit_render hn []
  rw [List.append_nil] at hunit
  exact congrArg (Option.map fun unit ↦ (unit.1, rest)) hunit

theorem chars_renderUnit (n : ℕ) (rest : Text) : chars (Json.renderUnit n) ++ rest =
    .scalar '\\' :: .scalar 'u' :: (chars ((Json.renderUnit n).drop 2) ++ rest) := rfl

theorem readLow_render {n : ℕ} (hn : n < 65536) (rest : Text) :
    readLow (chars (Json.renderUnit n) ++ rest) =
      if 0xdc00 ≤ n ∧ n < 0xe000 then some (n, rest) else none := by
  have hword : dropWord ['\\', 'u'] (chars (Json.renderUnit n) ++ rest) =
      some (chars ((Json.renderUnit n).drop 2) ++ rest) := dropWord_chars ['\\', 'u'] _
  rw [readLow, hword, Option.bind_eq_bind, Option.bind_some, readUnit_render hn, Option.bind_eq_bind,
    Option.bind_some]

/-- A text that does not begin with an escaped unit. -/
theorem readLow_of_ne {text : Text} (h : ∀ rest, text ≠ .scalar '\\' :: .scalar 'u' :: rest) :
    readLow text = none := by
  have hword : dropWord ['\\', 'u'] text = none := by
    match text with
    | [] => rfl
    | [.scalar c] =>
      rw [dropWord]
      split <;> rfl
    | .surrogate _ :: _ => rfl
    | .scalar c :: .surrogate _ :: _ =>
      rw [dropWord]
      split <;> rfl
    | .scalar c :: .scalar c' :: rest =>
      rw [dropWord]
      split
      · next hc =>
        rw [dropWord, if_neg]
        rintro rfl
        exact h rest (by rw [hc])
      · rfl
  rw [readLow, hword]
  rfl

/-- What `rest` begins with is not the low half of the pair that `point` begins. -/
def Alone (point : CodePoint) (rest : Text) : Prop := high point → readLow rest = none

theorem readEscapedUnit_render {n : ℕ} (hn : n < 65536) {rest : Text}
    (halone : 0xd800 ≤ n ∧ n < 0xdc00 → readLow rest = none) :
    readEscapedUnit (chars ((Json.renderUnit n).drop 2) ++ rest) = some (ofUnit n, rest) := by
  rw [readEscapedUnit, readUnit_render hn, Option.bind_eq_bind, Option.bind_some]
  dsimp only
  by_cases hhigh : 0xd800 ≤ n ∧ n < 0xdc00
  · rw [if_pos hhigh, halone hhigh]
  · rw [if_neg hhigh]

theorem ofUnit_scalar (c : Char) : ofUnit c.toNat = .scalar c := by
  have hrange := Json.char_range c
  rw [ofUnit, dif_neg (by omega), Char.ofNat_toNat]

theorem ofUnit_surrogate (n : Fin 0x800) : ofUnit (0xd800 + n) = .surrogate n := by
  rw [ofUnit, dif_pos (by omega)]
  exact congrArg CodePoint.surrogate (Fin.ext (Nat.add_sub_cancel_left 0xd800 n.val))

/-- Beyond the first plane a character is written as its two surrogates. -/
theorem readEscapedUnit_pair {c : Char} (hc : 0x10000 ≤ c.toNat) (rest : Text) :
    readEscapedUnit (chars ((Json.renderUnit (0xd800 + (c.toNat - 0x10000) / 1024)).drop 2) ++
      (chars (Json.renderUnit (0xdc00 + (c.toNat - 0x10000) % 1024)) ++ rest)) =
        some (.scalar c, rest) := by
  have hrange := Json.char_range c
  have hchar := Char.ofNat_toNat c
  generalize c.toNat = n at hc hrange hchar
  have hsum : 0x10000 + (0xd800 + (n - 0x10000) / 1024 - 0xd800) * 1024 +
      (0xdc00 + (n - 0x10000) % 1024 - 0xdc00) = n := by omega
  have hhigh : 0xd800 + (n - 0x10000) / 1024 < 65536 := by omega
  have hlow : 0xdc00 + (n - 0x10000) % 1024 < 65536 := by omega
  rw [readEscapedUnit, readUnit_render hhigh, Option.bind_eq_bind, Option.bind_some]
  dsimp only
  rw [if_pos (by omega), readLow_render hlow, if_pos (by omega)]
  dsimp only
  rw [hsum, hchar]

theorem readPoint_escapeChar (c : Char) (rest : Text) :
    readPoint (chars (Json.escapeChar c) ++ rest) = some (.scalar c, rest) := by
  rw [Json.escapeChar]
  split
  · next escape hfind =>
    have hstands : escape.2 = c := by simpa using List.find?_some hfind
    obtain ⟨hu, hslash, hback⟩ := Json.shortEscapes_spec escape (List.mem_of_find?_eq_some hfind)
    change readPoint (.scalar '\\' :: .scalar escape.1 :: rest) = _
    rw [readPoint]
    · rw [hback, Option.map_some, hstands]
    · exact hu
    · exact hslash
  · next hfind =>
    have hplain : c ≠ '\\' := by
      rintro rfl
      revert hfind
      decide
    split
    · next hprintable =>
      change readPoint (.scalar c :: rest) = _
      rw [readPoint]
      · rw [if_neg]
        rintro (h | h)
        · exact hplain h
        · omega
      all_goals
        intros
        exact hplain (by assumption)
    · split
      · next hlt =>
        rw [chars_renderUnit, readPoint, readEscapedUnit_render hlt, ofUnit_scalar]
        intro hhigh
        have := Json.char_range c
        omega
      · next hge =>
        rw [chars, List.map_append, List.append_assoc, ← chars, ← chars, chars_renderUnit, readPoint,
          readEscapedUnit_pair (not_lt.mp hge)]

theorem readPoint_escape {point : CodePoint} {rest : Text} (halone : Alone point rest) :
    readPoint (chars (escapePoint point) ++ rest) = some (point, rest) := by
  cases point with
  | scalar c => exact readPoint_escapeChar c rest
  | surrogate n =>
    have hn : 0xd800 + n.val < 65536 := by omega
    rw [escapePoint, chars_renderUnit, readPoint, readEscapedUnit_render hn, ofUnit_surrogate]
    exact fun hhigh ↦ halone ⟨n, rfl, by omega⟩

/-- The low half of a pair is written as itself only. -/
theorem readLow_escape {point : CodePoint} (hlow : ¬low point) (rest : Text) :
    readLow (chars (escapePoint point) ++ rest) = none := by
  cases point with
  | surrogate n =>
    have hn : 0xd800 + n.val < 65536 := by omega
    rw [escapePoint, readLow_render hn, if_neg]
    exact fun h ↦ hlow ⟨n, rfl, by omega⟩
  | scalar c =>
    have hrange := Json.char_range c
    rw [escapePoint, Json.escapeChar]
    split
    · next escape hfind =>
      obtain ⟨hu, -, -⟩ := Json.shortEscapes_spec escape (List.mem_of_find?_eq_some hfind)
      refine readLow_of_ne fun rest' h ↦ hu ?_
      exact CodePoint.scalar.inj (List.cons.inj (List.cons.inj h).2).1
    · next hfind =>
      split
      · refine readLow_of_ne fun rest' h ↦ ?_
        obtain rfl := CodePoint.scalar.inj (List.cons.inj h).1
        revert hfind
        decide
      · split
        · next hlt =>
          rw [readLow_render hlt, if_neg (by omega)]
        · next hge =>
          rw [chars, List.map_append, List.append_assoc, ← chars, ← chars, readLow_render (by omega),
            if_neg (by omega)]

/-! ## Strings read back -/

theorem escapePoint_head (point : CodePoint) :
    ∃ head tail, escapePoint point = head :: tail ∧ head ≠ '"' := by
  cases point with
  | scalar c => exact Json.escapeChar_head c
  | surrogate n => exact ⟨_, _, rfl, by decide⟩

theorem readBody_escape : ∀ {text : Text} {fuel : ℕ} (rest : Text), NoPair text →
    text.length < fuel →
    readBody fuel (chars (text.flatMap escapePoint) ++ .scalar '"' :: rest) = some (text, rest)
  | _, 0, _, _, hfuel => absurd hfuel (Nat.not_lt_zero _)
  | [], _ + 1, _, _, _ => rfl
  | point :: text, fuel + 1, rest, hpair, hfuel => by
    obtain ⟨head, tail, hhead, hne⟩ := escapePoint_head point
    have hchars : chars ((point :: text).flatMap escapePoint) ++ .scalar '"' :: rest =
        chars (escapePoint point) ++ (chars (text.flatMap escapePoint) ++ .scalar '"' :: rest) := by
      rw [List.flatMap_cons, chars, List.map_append, List.append_assoc]
    have hopen : (chars (escapePoint point) ++
        (chars (text.flatMap escapePoint) ++ .scalar '"' :: rest)).head? ≠ some (.scalar '"') := by
      rw [hhead]
      exact fun h ↦ hne (CodePoint.scalar.inj (Option.some.inj h))
    have halone : Alone point (chars (text.flatMap escapePoint) ++ .scalar '"' :: rest) := by
      intro hhigh
      cases text with
      | nil => exact readLow_of_ne fun rest' h ↦ by cases h
      | cons point' text =>
        rw [List.flatMap_cons, chars, List.map_append, List.append_assoc]
        exact readLow_escape (fun hlow ↦ (List.isChain_cons_cons.mp hpair).1 ⟨hhigh, hlow⟩) _
    have hbody := readBody_escape rest (List.isChain_cons.mp hpair).2
      (Nat.lt_of_succ_lt_succ hfuel)
    rw [hchars, readBody, if_neg hopen, readPoint_escape halone, Option.bind_eq_bind, Option.bind_some]
    dsimp only
    rw [hbody]
    rfl

theorem length_le_flatMap_escapePoint (text : Text) :
    text.length ≤ (text.flatMap escapePoint).length := by
  induction text with
  | nil => simp
  | cons point text ih =>
    obtain ⟨head, tail, hhead, -⟩ := escapePoint_head point
    rw [List.flatMap_cons, List.length_append, hhead, List.length_cons, List.length_cons]
    omega

/-! ## The rules of scanners -/

section Reads

variable {α β : Type} {scan : Scan α} {f : α → Scan β} {text middle rest : Text} {a : α} {b : β}

/-- A scanner reads a value, and converts no integer that is too long. -/
def Reads (scan : Scan α) (text : Text) (a : α) (rest : Text) : Prop :=
  ∃ digits, scan text = (digits, some (a, rest)) ∧ ∀ n ∈ digits, n ≤ MAX_STR_DIGITS

theorem Reads.pure (a : α) (text : Text) : Reads (Pure.pure a : Scan α) text a text :=
  ⟨[], rfl, by simp⟩

theorem Reads.bind (h : Reads scan text a middle) (hf : Reads (f a) middle b rest) :
    Reads (scan >>= f) text b rest := by
  obtain ⟨digits, hscan, hdigits⟩ := h
  obtain ⟨digits', hscan', hdigits'⟩ := hf
  refine ⟨digits ++ digits', ?_, List.forall_mem_append.mpr ⟨hdigits, hdigits'⟩⟩
  change Scan.andThen scan f text = _
  rw [Scan.andThen, hscan]
  dsimp only
  rw [hscan']

theorem reads_ofOption {read : Text → Option (α × Text)} (h : read text = some (a, rest)) :
    Reads (.ofOption read) text a rest := ⟨[], congrArg (Prod.mk []) h, by simp⟩

theorem reads_peek (text : Text) : Reads peek text text.head? text := ⟨[], rfl, by simp⟩

theorem reads_expect (c : Char) (rest : Text) : Reads (expect c) (.scalar c :: rest) () rest :=
  reads_ofOption (by rw [dropWord, if_pos rfl]; rfl)

/-- The text does not begin with white space. -/
def NoSpace (text : Text) : Prop := ∀ c, text.head? = some (.scalar c) → Json.isSpace c = false

theorem noSpace_cons {c : Char} (hc : Json.isSpace c = false) (rest : Text) :
    NoSpace (.scalar c :: rest) := fun c' h ↦ by
  obtain rfl := CodePoint.scalar.inj (Option.some.inj h)
  exact hc

theorem reads_space {blanks : List Char} (hblanks : ∀ c ∈ blanks, Json.isSpace c = true)
    (hrest : NoSpace rest) : Reads space (chars blanks ++ rest) () rest := by
  refine ⟨[], ?_, by simp⟩
  have hdrop : (chars blanks ++ rest).dropWhile isBlank = rest := by
    rw [List.dropWhile_append_of_pos]
    · match rest, hrest with
      | [], _ => rfl
      | .surrogate _ :: _, _ => rfl
      | .scalar c :: rest, hrest => rw [List.dropWhile_cons_of_neg (by simp [isBlank, hrest c rfl])]
    · intro point hpoint
      obtain ⟨c, hc, rfl⟩ := List.mem_map.mp hpoint
      exact hblanks c hc
  rw [space, hdrop]

theorem reads_noSpace (h : NoSpace text) : Reads space text () text :=
  reads_space (List.forall_mem_nil _) h

end Reads

theorem scanString_render {text : Text} (h : NoPair text) (rest : Text) :
    Reads scanString (chars (renderText text) ++ rest) text rest := by
  have hlength := length_le_flatMap_escapePoint text
  have hchars : chars (renderText text) ++ rest =
      .scalar '"' :: (chars (text.flatMap escapePoint) ++ .scalar '"' :: rest) := by
    simp [renderText]
  refine reads_ofOption ?_
  rw [hchars]
  exact readBody_escape rest h (by
    rw [List.length_append, List.length_map]
    omega)

/-! ## Numbers and words read back -/

theorem leading_append (cs : List Char) (rest : Text) : leading (chars cs ++ rest) = cs ++ leading rest := by
  induction cs with
  | nil => rfl
  | cons c cs ih => exact congrArg (c :: ·) ih

theorem integerDigits_render (z : ℤ) {rest : List Char} (hrest : Json.NoDigit rest) :
    integerDigits (Json.renderInt z ++ rest) = (Json.renderNat z.natAbs).length := by
  have htake (n : ℕ) : (Json.renderNat n ++ rest).takeWhile Json.isDigit = Json.renderNat n :=
    (Json.span_digits (fun c hc ↦ Json.isDigit_of_mem_decDigits hc) hrest).1
  rw [integerDigits]
  cases z with
  | ofNat n =>
    rw [Json.renderInt, Json.splitSign_renderNat, htake]
    rfl
  | negSucc n =>
    rw [Json.renderInt, List.cons_append, Json.splitSign, htake]
    rfl

theorem drop_chars (cs : List Char) (rest : Text) :
    (chars cs ++ rest).drop ((cs ++ leading rest).length - (leading rest).length) = rest := by
  have hlength : (chars cs).length = cs.length := List.length_map _
  rw [List.length_append, Nat.add_sub_cancel, ← hlength, List.drop_left]

/-- The literal of an integer. -/
theorem scanNumber_literal (z : ℤ) {rest : Text} (hrest : Json.Stops (leading rest)) :
    scanNumber (chars (Json.renderInt z) ++ rest) =
      ([(Json.renderNat z.natAbs).length], some (.int z, rest)) := by
  rw [scanNumber, leading_append, Json.parseNumber_int z hrest, integerDigits_render z hrest.noDigit]
  dsimp only
  rw [drop_chars]

theorem scanNumber_int {z : ℤ} (hz : (Json.renderNat z.natAbs).length ≤ MAX_STR_DIGITS) {rest : Text}
    (hrest : Json.Stops (leading rest)) :
    Reads scanNumber (chars (Json.renderInt z) ++ rest) (.int z) rest :=
  ⟨_, scanNumber_literal z hrest, by simpa using hz⟩

theorem scanNumber_float (q : Decimal) {rest : Text} (hrest : Json.Stops (leading rest)) :
    Reads scanNumber (chars (Json.renderInt q.mantissa ++ 'e' :: Json.renderInt q.exponent) ++ rest)
      (.float q) rest := by
  refine ⟨[], ?_, by simp⟩
  rw [scanNumber, leading_append, Json.parseNumber_float q hrest]
  dsimp only
  rw [drop_chars]

theorem dropWord_ne {c c' : Char} (h : c ≠ c') (word : List Char) (rest : Text) :
    dropWord (c :: word) (.scalar c' :: rest) = none := if_neg h

theorem isDigit_ne {c d : Char} (hd : Json.isDigit d = true) (hc : Json.isDigit c = false) : c ≠ d := by
  rintro rfl
  rw [hd] at hc
  cases hc

/-- A number is no word. -/
theorem words_number (z : ℤ) (rest : Text) :
    (words.findSome? fun word ↦ (dropWord word.1 (chars (Json.renderInt z) ++ rest)).map (word.2, ·)) =
      none := by
  have hdigit (n : ℕ) : ∃ d tail, Json.renderNat n = d :: tail ∧ Json.isDigit d = true := by
    obtain ⟨d, tail, hn⟩ := List.exists_cons_of_ne_nil (Json.decDigits_ne_nil n n)
    exact ⟨d, tail, hn, Json.head?_renderNat (n := n) (by rw [Json.renderNat, hn]; rfl)⟩
  refine List.findSome?_eq_none_iff.mpr fun word hword ↦ Option.map_eq_none_iff.mpr ?_
  cases z with
  | ofNat n =>
    obtain ⟨d, tail, hn, hd⟩ := hdigit n
    have hfirst : ∀ word ∈ words, word.1.head?.map Json.isDigit = some false := by decide
    obtain ⟨c, hc, hcdigit⟩ := Option.map_eq_some_iff.mp (hfirst word hword)
    rw [Json.renderInt, hn, List.eq_cons_of_mem_head? hc]
    exact dropWord_ne (isDigit_ne hd hcdigit) _ _
  | negSucc n =>
    obtain ⟨d, tail, hn, hd⟩ := hdigit (n + 1)
    rw [Json.renderInt, hn]
    have hsecond : dropWord (FloatConst.render .negInf) (chars ('-' :: d :: tail) ++ rest) = none := by
      change (if '-' = '-' then dropWord ('I' :: _) (.scalar d :: _) else none) = none
      rw [if_pos rfl, dropWord_ne (isDigit_ne hd (by decide))]
    simp only [words, List.mem_cons, List.not_mem_nil, or_false] at hword
    obtain rfl | rfl | rfl | rfl | rfl | rfl := hword
    · exact dropWord_ne (by decide) _ _
    · exact dropWord_ne (by decide) _ _
    · exact dropWord_ne (by decide) _ _
    · exact dropWord_ne (by decide) _ _
    · exact dropWord_ne (by decide) _ _
    · exact hsecond

theorem scanWord_number (z : ℤ) (cs : List Char) (rest : Text) :
    scanWord (chars (Json.renderInt z ++ cs) ++ rest) =
      scanNumber (chars (Json.renderInt z ++ cs) ++ rest) := by
  have hwords := words_number z (chars cs ++ rest)
  rw [← List.append_assoc, ← List.map_append] at hwords
  rw [scanWord, hwords]

theorem scanWord_word {word : List Char × PyJson} (hword : word ∈ words) (rest : Text) :
    Reads scanWord (chars word.1 ++ rest) word.2 rest := by
  refine ⟨[], ?_, by simp⟩
  simp only [words, List.mem_cons, List.not_mem_nil, or_false] at hword
  obtain rfl | rfl | rfl | rfl | rfl | rfl := hword
  all_goals rfl

/-! ## Values read back -/

/-- What a rendered value begins with. -/
def Head (c : Char) : Prop := Json.isSpace c = false ∧ c ≠ ']' ∧ c ≠ '}'

instance (c : Char) : Decidable (Head c) :=
  inferInstanceAs (Decidable (Json.isSpace c = false ∧ c ≠ ']' ∧ c ≠ '}'))

theorem head_number {c : Char} (h : c = '-' ∨ Json.isDigit c = true) : Head c := by
  rcases h with rfl | h
  · exact by decide
  · refine ⟨?_, (isDigit_ne h (by decide)).symm, (isDigit_ne h (by decide)).symm⟩
    by_contra hspace
    simp only [Json.isSpace, Bool.not_eq_false, Bool.or_eq_true, decide_eq_true_eq] at hspace
    rcases hspace with ((rfl | rfl) | rfl) | rfl <;> revert h <;> decide

variable (layout : Layout)

theorem render_head (depth : ℕ) (value : PyJson) :
    ∃ c tail, render layout depth value = c :: tail ∧ Head c := by
  match value with
  | .null => exact ⟨_, _, rfl, by decide⟩
  | .bool true => exact ⟨_, _, rfl, by decide⟩
  | .bool false => exact ⟨_, _, rfl, by decide⟩
  | .int z =>
    obtain ⟨c, tail, hz, hc⟩ := Json.renderInt_head z
    exact ⟨c, tail, by rw [render, hz], head_number hc⟩
  | .float q =>
    obtain ⟨c, tail, hz, hc⟩ := Json.renderInt_head q.mantissa
    exact ⟨c, tail ++ 'e' :: Json.renderInt q.exponent, by rw [render, hz, List.cons_append],
      head_number hc⟩
  | .const .nan => exact ⟨_, _, rfl, by decide⟩
  | .const .inf => exact ⟨_, _, rfl, by decide⟩
  | .const .negInf => exact ⟨_, _, rfl, by decide⟩
  | .str text => exact ⟨_, _, by rw [render, renderText], by decide⟩
  | .arr [] => exact ⟨_, _, by rw [render], by decide⟩
  | .arr (_ :: _) => exact ⟨_, _, by rw [render], by decide⟩
  | .obj [] => exact ⟨_, _, by rw [render], by decide⟩
  | .obj (_ :: _) => exact ⟨_, _, by rw [render], by decide⟩

theorem noSpace_render (depth : ℕ) (value : PyJson) (rest : Text) :
    NoSpace (chars (render layout depth value) ++ rest) := by
  obtain ⟨c, tail, h, hhead⟩ := render_head layout depth value
  rw [h]
  exact noSpace_cons hhead.1 _

theorem noSpace_renderText (text rest : Text) : NoSpace (chars (renderText text) ++ rest) :=
  noSpace_cons (by decide) _

theorem head?_render_ne (depth : ℕ) (value : PyJson) (rest : Text) :
    (chars (render layout depth value) ++ rest).head? ≠ some (.scalar ']') := by
  obtain ⟨c, tail, h, hhead⟩ := render_head layout depth value
  rw [h]
  exact fun heq ↦ hhead.2.1 (CodePoint.scalar.inj (Option.some.inj heq))

theorem head?_renderText_ne (text rest : Text) :
    (chars (renderText text) ++ rest).head? ≠ some (.scalar '}') :=
  fun heq ↦ absurd (CodePoint.scalar.inj (Option.some.inj heq)) (by decide)

theorem head?_cons_ne {c c' : Char} (h : c ≠ c') (rest : Text) :
    (CodePoint.scalar c :: rest).head? ≠ some (.scalar c') :=
  fun heq ↦ h (CodePoint.scalar.inj (Option.some.inj heq))

theorem stops_blanks {blanks : List Char} (hblanks : ∀ c ∈ blanks, Json.isSpace c = true) {rest : Text}
    (hrest : Json.Stops (leading rest)) : Json.Stops (leading (chars blanks ++ rest)) := by
  rw [leading_append]
  cases blanks with
  | nil => exact hrest
  | cons c blanks =>
    refine Json.stops_cons ?_
    have hspace := hblanks c List.mem_cons_self
    simp only [Json.isSpace, Bool.or_eq_true, decide_eq_true_eq] at hspace
    rcases hspace with ((rfl | rfl) | rfl) | rfl <;> decide

theorem Layout.opening_space (layout : Layout) (depth : ℕ) :
    ∀ c ∈ layout.opening depth, Json.isSpace c = true := fun c hc ↦
  layout.space.1 depth c (List.mem_append_left _ (List.mem_append_left _ hc))

theorem Layout.comma_space (layout : Layout) (depth : ℕ) :
    ∀ c ∈ layout.comma depth, Json.isSpace c = true := fun c hc ↦
  layout.space.1 depth c (List.mem_append_left _ (List.mem_append_right _ hc))

theorem Layout.closing_space (layout : Layout) (depth : ℕ) :
    ∀ c ∈ layout.closing depth, Json.isSpace c = true := fun c hc ↦
  layout.space.1 depth c (List.mem_append_right _ hc)

theorem stops_renderItems (depth : ℕ) (items : List PyJson) (rest : Text) :
    Json.Stops (leading (chars (renderItems layout depth items) ++ rest)) := by
  cases items with
  | nil =>
    rw [renderItems, chars, List.map_append, List.append_assoc]
    exact stops_blanks (layout.closing_space depth) (Json.stops_cons (by decide))
  | cons item items =>
    rw [renderItems]
    exact Json.stops_cons (by decide)

theorem stops_renderMembers (depth : ℕ) (members : List (Text × PyJson)) (rest : Text) :
    Json.Stops (leading (chars (renderMembers layout depth members) ++ rest)) := by
  cases members with
  | nil =>
    rw [renderMembers, chars, List.map_append, List.append_assoc]
    exact stops_blanks (layout.closing_space depth) (Json.stops_cons (by decide))
  | cons member members =>
    rw [renderMembers]
    exact Json.stops_cons (by decide)

theorem dumps_ne_nil (layout : Layout) (value : PyJson) : dumps layout value ≠ [] := by
  obtain ⟨c, tail, h, -⟩ := render_head layout 0 value
  rw [dumps, h]
  exact List.cons_ne_nil _ _

theorem peek_bind {α : Type} (f : Option CodePoint → Scan α) (text : Text) :
    (peek >>= f) text = f text.head? text := rfl

/-- What begins with none of the brackets is a word or a number. -/
theorem scanValue_word {c : Char} (hc : c ≠ '"' ∧ c ≠ '[' ∧ c ≠ '{') (fuel : ℕ) (tail : Text) :
    scanValue (fuel + 1) (.scalar c :: tail) = scanWord (.scalar c :: tail) := by
  rw [scanValue, peek_bind, List.head?_cons]
  refine congrFun (?_ : _ = scanWord) _
  split
  · next heq => exact absurd (CodePoint.scalar.inj (Option.some.inj heq)) hc.1
  · next heq => exact absurd (CodePoint.scalar.inj (Option.some.inj heq)) hc.2.1
  · next heq => exact absurd (CodePoint.scalar.inj (Option.some.inj heq)) hc.2.2
  · rfl

theorem scanValue_number (fuel : ℕ) (z : ℤ) (cs : List Char) (rest : Text) :
    scanValue (fuel + 1) (chars (Json.renderInt z ++ cs) ++ rest) =
      scanNumber (chars (Json.renderInt z ++ cs) ++ rest) := by
  rw [← scanWord_number]
  obtain ⟨c, tail, hz, hc⟩ := Json.renderInt_head z
  rw [hz]
  refine scanValue_word ?_ fuel _
  rcases hc with rfl | hc
  · decide
  · exact ⟨(isDigit_ne hc (by decide)).symm, (isDigit_ne hc (by decide)).symm,
      (isDigit_ne hc (by decide)).symm⟩

theorem scanValue_known {fuel : ℕ} {word : List Char × PyJson} (hword : word ∈ words) (rest : Text) :
    Reads (scanValue (fuel + 1)) (chars word.1 ++ rest) word.2 rest := by
  obtain ⟨digits, hscan, hdigits⟩ := scanWord_word hword rest
  refine ⟨digits, ?_, hdigits⟩
  rw [← hscan]
  simp only [words, List.mem_cons, List.not_mem_nil, or_false] at hword
  obtain rfl | rfl | rfl | rfl | rfl | rfl := hword
  all_goals exact scanValue_word (by decide) fuel _

/-- An integer of its own is one literal. -/
theorem integerLiterals_int (layout : Layout) (z : ℤ) :
    integerLiterals (dumps layout (.int z)) = [(Json.renderNat z.natAbs).length] := by
  have hspace : space (dumps layout (.int z)) = ([], some ((), dumps layout (.int z))) := by
    have hnoSpace := noSpace_render layout 0 (.int z) []
    rw [List.append_nil] at hnoSpace
    obtain ⟨digits, hscan, -⟩ := reads_noSpace hnoSpace
    rw [space] at hscan ⊢
    rw [← (Prod.mk.inj hscan).1] at hscan
    exact hscan
  have hvalue : scanValue ((dumps layout (.int z)).length + 1) (dumps layout (.int z)) =
      ([(Json.renderNat z.natAbs).length], some (.int z, [])) := by
    have hnumber := scanValue_number (dumps layout (.int z)).length z [] []
    rw [List.append_nil, List.append_nil] at hnumber
    have hliteral := @scanNumber_literal z [] Json.stops_nil
    rw [List.append_nil] at hliteral
    rw [dumps, render] at hnumber ⊢
    exact hnumber.trans hliteral
  rw [integerLiterals, scanDocument]
  change (Scan.andThen space _ _).1 = _
  rw [Scan.andThen, hspace]
  change [] ++ (Scan.andThen (scanValue _) _ _).1 = _
  rw [Scan.andThen, hvalue]
  rfl

theorem setItem_fresh {α : Type} {key : Text} {value : α} : ∀ {dict : List (Text × α)},
    key ∉ dict.map Prod.fst → setItem key value dict = dict ++ [(key, value)]
  | [], _ => rfl
  | member :: dict, h => by
    rw [List.map_cons, List.mem_cons, not_or] at h
    rw [setItem, if_neg (Ne.symm h.1), setItem_fresh h.2, List.cons_append]

theorem foldl_setItem {α : Type} : ∀ {members dict : List (Text × α)},
    ((dict ++ members).map Prod.fst).Nodup →
      members.foldl (fun dict member ↦ setItem member.1 member.2 dict) dict = dict ++ members
  | [], dict, _ => (List.append_nil dict).symm
  | member :: members, dict, h => by
    have hfresh : member.1 ∉ dict.map Prod.fst := by
      rw [List.map_append, List.map_cons] at h
      exact fun hmem ↦ (List.nodup_append.mp h).2.2 _ hmem _ List.mem_cons_self rfl
    rw [List.foldl_cons, setItem_fresh hfresh, foldl_setItem (by simpa using h), List.append_assoc]
    rfl

/-- A dictionary is one already. -/
theorem dictOf_nodup {α : Type} {members : List (Text × α)} (h : (members.map Prod.fst).Nodup) :
    dictOf members = members := foldl_setItem h

theorem scanMember_render {key : Text} {value : PyJson} {depth fuel : ℕ} {rest : Text}
    (hkey : NoPair key)
    (hvalue : Reads (scanValue fuel) (chars (render layout depth value) ++ rest) value rest) :
    Reads (scanMember (fuel + 1)) (chars (renderText key) ++ .scalar ':' :: (chars layout.colon ++
      (chars (render layout depth value) ++ rest))) (key, value) rest := by
  rw [scanMember]
  refine Reads.bind (scanString_render hkey _) ?_
  refine Reads.bind (reads_noSpace (noSpace_cons (by decide) _)) (Reads.bind (reads_expect _ _) ?_)
  refine Reads.bind (reads_space layout.space.2 (noSpace_render layout depth value rest)) ?_
  exact Reads.bind hvalue (Reads.pure _ _)

mutual

/-- A value is read back, whatever stops it. -/
theorem scanValue_render : ∀ (value : PyJson) (depth fuel : ℕ), Tidy value →
    (render layout depth value).length ≤ fuel → ∀ {rest : Text}, Json.Stops (leading rest) →
      Reads (scanValue fuel) (chars (render layout depth value) ++ rest) value rest
  | value, depth, 0, _, hfuel, _, _ => by
    obtain ⟨c, tail, h, -⟩ := render_head layout depth value
    rw [h] at hfuel
    cases hfuel
  | .null, _, _ + 1, _, _, rest, _ =>
    @scanValue_known _ (['n', 'u', 'l', 'l'], .null) (by simp [words]) rest
  | .bool true, _, _ + 1, _, _, rest, _ =>
    @scanValue_known _ (['t', 'r', 'u', 'e'], .bool true) (by simp [words]) rest
  | .bool false, _, _ + 1, _, _, rest, _ =>
    @scanValue_known _ (['f', 'a', 'l', 's', 'e'], .bool false) (by simp [words]) rest
  | .const c, _, _ + 1, _, _, rest, _ =>
    @scanValue_known _ (FloatConst.render c, .const c) (by cases c <;> simp [words]) rest
  | .int z, _, fuel + 1, htidy, _, rest, hrest => by
    obtain ⟨digits, hscan, hdigits⟩ := scanNumber_int htidy hrest
    rw [render]
    refine ⟨digits, ?_, hdigits⟩
    rw [← hscan, ← List.append_nil (Json.renderInt z)]
    exact scanValue_number fuel z [] rest
  | .float q, _, fuel + 1, _, _, rest, hrest => by
    obtain ⟨digits, hscan, hdigits⟩ := scanNumber_float q hrest
    rw [render]
    exact ⟨digits, by rw [← hscan]; exact scanValue_number fuel _ _ rest, hdigits⟩
  | .str text, _, fuel + 1, htidy, _, rest, _ => by
    have hstring := scanString_render htidy rest
    rw [render, scanValue]
    exact Reads.bind (reads_peek _) (Reads.bind hstring (Reads.pure _ _))
  | .arr [], _, fuel + 1, _, _, rest, _ => by
    rw [render, scanValue]
    refine Reads.bind (reads_peek _) (Reads.bind (reads_expect _ _) ?_)
    refine Reads.bind (reads_noSpace (noSpace_cons (by decide) rest)) (Reads.bind (reads_peek _) ?_)
    exact Reads.bind (reads_expect _ _) (Reads.pure _ _)
  | .arr (item :: items), depth, fuel + 1, htidy, hfuel, rest, _ => by
    rw [render, List.length_cons, List.length_append, List.length_append] at hfuel
    have hitem := scanValue_render item (depth + 1) fuel htidy.1 (by omega)
      (stops_renderItems layout (depth + 1) items rest)
    have hitems := scanItems_render items (depth + 1) fuel htidy.2 (by omega) rest
    have hchars : chars (render layout depth (.arr (item :: items))) ++ rest =
        .scalar '[' :: (chars (layout.opening (depth + 1)) ++
          (chars (render layout (depth + 1) item) ++
            (chars (renderItems layout (depth + 1) items) ++ rest))) := by
      simp [render]
    rw [hchars, scanValue]
    refine Reads.bind (reads_peek _) (Reads.bind (reads_expect _ _) ?_)
    refine Reads.bind (reads_space (layout.opening_space _) (noSpace_render layout _ _ _)) ?_
    refine Reads.bind (reads_peek _) ?_
    rw [if_neg (head?_render_ne layout (depth + 1) item _)]
    exact Reads.bind hitem (Reads.bind hitems (Reads.pure _ _))
  | .obj [], _, fuel + 1, _, _, rest, _ => by
    rw [render, scanValue]
    refine Reads.bind (reads_peek _) (Reads.bind (reads_expect _ _) ?_)
    refine Reads.bind (reads_noSpace (noSpace_cons (by decide) rest)) (Reads.bind (reads_peek _) ?_)
    exact Reads.bind (reads_expect _ _) (Reads.pure _ _)
  | .obj ((key, value) :: members), depth, fuel + 1, htidy, hfuel, rest, _ => by
    obtain ⟨hnodup, ⟨hkey, hvalue⟩, hmembers⟩ := htidy
    rw [render, List.length_cons, List.length_append, List.length_append, List.length_cons,
      List.length_append, List.length_append] at hfuel
    obtain ⟨fuel, rfl⟩ := Nat.exists_eq_succ_of_ne_zero (n := fuel) (by omega)
    have hmember := scanMember_render layout hkey
      (scanValue_render value (depth + 1) fuel hvalue (by omega)
        (stops_renderMembers layout (depth + 1) members rest))
    have hmembers := scanMembers_render members (depth + 1) (fuel + 1) hmembers (by omega) rest
    have hchars : chars (render layout depth (.obj ((key, value) :: members))) ++ rest =
        .scalar '{' :: (chars (layout.opening (depth + 1)) ++ (chars (renderText key) ++
          .scalar ':' :: (chars layout.colon ++ (chars (render layout (depth + 1) value) ++
            (chars (renderMembers layout (depth + 1) members) ++ rest))))) := by
      simp [render]
    rw [hchars, scanValue]
    refine Reads.bind (reads_peek _) (Reads.bind (reads_expect _ _) ?_)
    refine Reads.bind (reads_space (layout.opening_space _) (noSpace_renderText _ _)) ?_
    refine Reads.bind (reads_peek _) ?_
    rw [if_neg (head?_renderText_ne key _)]
    refine Reads.bind hmember (Reads.bind hmembers ?_)
    rw [dictOf_nodup hnodup]
    exact Reads.pure _ _

theorem scanItems_render : ∀ (items : List PyJson) (depth fuel : ℕ), TidyItems items →
    (renderItems layout depth items).length ≤ fuel → ∀ rest : Text,
      Reads (scanItems fuel) (chars (renderItems layout depth items) ++ rest) items rest
  | [], depth, 0, _, hfuel, _ => by
    rw [renderItems, List.length_append] at hfuel
    cases hfuel
  | _ :: _, _, 0, _, hfuel, _ => by cases hfuel
  | [], depth, fuel + 1, _, _, rest => by
    have hchars : chars (renderItems layout depth []) ++ rest =
        chars (layout.closing depth) ++ .scalar ']' :: rest := by
      simp [renderItems]
    rw [hchars, scanItems]
    refine Reads.bind (reads_space (layout.closing_space depth) (noSpace_cons (by decide) rest)) ?_
    refine Reads.bind (reads_peek _) ?_
    exact Reads.bind (reads_expect _ _) (Reads.pure _ _)
  | item :: items, depth, fuel + 1, htidy, hfuel, rest => by
    rw [renderItems, List.length_cons, List.length_append, List.length_append] at hfuel
    have hitem := scanValue_render item depth fuel htidy.1 (by omega)
      (stops_renderItems layout depth items rest)
    have hitems := scanItems_render items depth fuel htidy.2 (by omega) rest
    have hchars : chars (renderItems layout depth (item :: items)) ++ rest =
        .scalar ',' :: (chars (layout.comma depth) ++ (chars (render layout depth item) ++
          (chars (renderItems layout depth items) ++ rest))) := by
      simp [renderItems]
    rw [hchars, scanItems]
    refine Reads.bind (reads_noSpace (noSpace_cons (by decide) _)) (Reads.bind (reads_peek _) ?_)
    rw [if_neg (head?_cons_ne (by decide) _)]
    refine Reads.bind (reads_expect _ _) ?_
    refine Reads.bind (reads_space (layout.comma_space depth) (noSpace_render layout _ _ _)) ?_
    exact Reads.bind hitem (Reads.bind hitems (Reads.pure _ _))

theorem scanMembers_render : ∀ (members : List (Text × PyJson)) (depth fuel : ℕ), TidyMembers members →
    (renderMembers layout depth members).length ≤ fuel → ∀ rest : Text,
      Reads (scanMembers fuel) (chars (renderMembers layout depth members) ++ rest) members rest
  | [], depth, 0, _, hfuel, _ => by
    rw [renderMembers, List.length_append] at hfuel
    cases hfuel
  | _ :: _, _, 0, _, hfuel, _ => by cases hfuel
  | [], depth, fuel + 1, _, _, rest => by
    have hchars : chars (renderMembers layout depth []) ++ rest =
        chars (layout.closing depth) ++ .scalar '}' :: rest := by
      simp [renderMembers]
    rw [hchars, scanMembers]
    refine Reads.bind (reads_space (layout.closing_space depth) (noSpace_cons (by decide) rest)) ?_
    refine Reads.bind (reads_peek _) ?_
    exact Reads.bind (reads_expect _ _) (Reads.pure _ _)
  | (key, value) :: members, depth, fuel + 1, htidy, hfuel, rest => by
    obtain ⟨⟨hkey, hvalue⟩, hmembers⟩ := htidy
    rw [renderMembers, List.length_cons, List.length_append, List.length_append, List.length_cons,
      List.length_append, List.length_append] at hfuel
    obtain ⟨fuel, rfl⟩ := Nat.exists_eq_succ_of_ne_zero (n := fuel) (by omega)
    have hmember := scanMember_render layout hkey
      (scanValue_render value depth fuel hvalue (by omega)
        (stops_renderMembers layout depth members rest))
    have hmembers := scanMembers_render members depth (fuel + 1) hmembers (by omega) rest
    have hchars : chars (renderMembers layout depth ((key, value) :: members)) ++ rest =
        .scalar ',' :: (chars (layout.comma depth) ++ (chars (renderText key) ++
          .scalar ':' :: (chars layout.colon ++ (chars (render layout depth value) ++
            (chars (renderMembers layout depth members) ++ rest))))) := by
      simp [renderMembers]
    rw [hchars, scanMembers]
    refine Reads.bind (reads_noSpace (noSpace_cons (by decide) _)) (Reads.bind (reads_peek _) ?_)
    rw [if_neg (head?_cons_ne (by decide) _)]
    refine Reads.bind (reads_expect _ _) ?_
    refine Reads.bind (reads_space (layout.comma_space depth) (noSpace_renderText _ _)) ?_
    exact Reads.bind hmember (Reads.bind hmembers (Reads.pure _ _))

end

/-- **A written value is read back**, in every layout. -/
theorem loads_dumps {value : PyJson} (h : Tidy value) (layout : Layout) :
    loads (dumps layout value) = .ok value := by
  have hread : Reads (scanDocument ((dumps layout value).length + 1)) (dumps layout value) value [] := by
    have hvalue := @scanValue_render layout value 0 ((dumps layout value).length + 1) h
      (by rw [dumps, List.length_map]; omega) [] Json.stops_nil
    have hspace := noSpace_render layout 0 value []
    rw [List.append_nil] at hvalue hspace
    refine Reads.bind (reads_noSpace hspace) (Reads.bind hvalue ?_)
    refine Reads.bind (reads_noSpace fun c hc ↦ by cases hc) (Reads.bind (reads_peek _) ?_)
    exact Reads.pure _ _
  obtain ⟨digits, hscan, hdigits⟩ := hread
  have hshort : ¬∃ n ∈ integerLiterals (dumps layout value), MAX_STR_DIGITS < n := by
    rw [integerLiterals, hscan]
    rintro ⟨n, hn, hlong⟩
    exact absurd (hdigits n hn) hlong.not_ge
  rw [loads, if_neg hshort, hscan]

end PyJson
