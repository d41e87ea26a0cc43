import Mathlib.Algebra.Ring.Int.Defs
import Mathlib.Data.List.Basic
import Mathlib.Data.List.TakeDrop
import Mathlib.Data.String.Basic
import Mathlib.Order.Basic
import Mathlib.Tactic.Common

/-!
# JSON texts

JSON values, the compact ASCII text a serialiser writes for them, and a reader for all of JSON.

An object is a list of members; two objects that list the same members in another order are the
same dictionary, so a value has a `normal` form, with the keys of every object in strictly
increasing order and the last of equal keys kept.  `dumps` writes the normal form, which is what
`sort_keys` does, and `loads` returns one.

Strings are sequences of Unicode scalar values, so an escaped lone surrogate is rejected.  A finite
float is the decimal it reads as, kept with a mantissa that is not a multiple of ten; of the several
layouts a float may be written in, `render` uses one.

* `parse_render` — the reader reads back what was written, whatever follows it.
* `loads_dumps` — a round trip is the normal form, and `dumps_inj` — equal texts are equal
  dictionaries.
-/

set_option autoImplicit false

/-- A decimal number `mantissa * 10 ^ exponent`, in lowest terms. -/
structure Decimal where
  mantissa : ℤ
  exponent : ℤ
  lowest : mantissa % 10 ≠ 0 ∨ mantissa = 0 ∧ exponent = 0 := by decide
  deriving DecidableEq

namespace Decimal

def zero : Decimal := ⟨0, 0, Or.inr ⟨rfl, rfl⟩⟩

/-- Cancel powers of ten, at most `fuel` of them. -/
def cancel : ℕ → ℤ → ℤ → ℤ × ℤ
  | 0, mantissa, exponent => (mantissa, exponent)
  | fuel + 1, mantissa, exponent =>
    if mantissa % 10 = 0 then cancel fuel (mantissa / 10) (exponent + 1) else (mantissa, exponent)

/-- The decimal with the given value, in lowest terms. -/
def ofParts (mantissa exponent : ℤ) : Decimal :=
  let reduced := cancel mantissa.natAbs mantissa exponent
  if h : reduced.1 % 10 ≠ 0 then ⟨reduced.1, reduced.2, Or.inl h⟩ else zero

theorem ofParts_self (q : Decimal) : ofParts q.mantissa q.exponent = q := by
  obtain ⟨m, e, h⟩ := q
  rcases h with h | ⟨rfl, rfl⟩
  · have hcancel : cancel m.natAbs m e = (m, e) := by
      cases m.natAbs with
      | zero => rfl
      | succ n => rw [cancel, if_neg h]
    simp only [ofParts, hcancel]
    rw [dif_pos h]
  · rfl

end Decimal

inductive Json where
  | null
  | bool (b : Bool)
  | int (z : ℤ)
  | float (q : Decimal)
  | str (s : String)
  | arr (items : List Json)
  | obj (members : List (String × Json))

namespace Json

/-! ## Writing -/

def digitChar (d : ℕ) : Char := Char.ofNat (48 + d)

/-- Decimal digits, at most `fuel + 1` of them. -/
def decDigits : ℕ → ℕ → List Char
  | 0, n => [digitChar (n % 10)]
  | fuel + 1, n =>
    if n < 10 then [digitChar n] else decDigits fuel (n / 10) ++ [digitChar (n % 10)]

def renderNat (n : ℕ) : List Char := decDigits n n

def renderInt : ℤ → List Char
  | .ofNat n => renderNat n
  | .negSucc n => '-' :: renderNat (n + 1)

def hexChar (d : ℕ) : Char := if d < 10 then Char.ofNat (48 + d) else Char.ofNat (87 + d)

/-- A UTF-16 code unit as `\uXXXX`. -/
def renderUnit (n : ℕ) : List Char :=
  ['\\', 'u', hexChar (n / 4096 % 16), hexChar (n / 256 % 16), hexChar (n / 16 % 16),
    hexChar (n % 16)]

/-- The short escapes of JSON: the letter after the backslash, and what it stands for. -/
def shortEscapes : List (Char × Char) :=
  [('"', '"'), ('\\', '\\'), ('n', '\n'), ('r', '\r'), ('t', '\t'), ('f', '\x0c'), ('b', '\x08')]

def escapeChar (c : Char) : List Char :=
  match shortEscapes.find? fun escape ↦ escape.2 = c with
  | some escape => ['\\', escape.1]
  | none =>
    if 0x20 ≤ c.toNat ∧ c.toNat ≤ 0x7e then [c]
    else if c.toNat < 0x10000 then renderUnit c.toNat
    else renderUnit (0xd800 + (c.toNat - 0x10000) / 1024) ++
      renderUnit (0xdc00 + (c.toNat - 0x10000) % 1024)

def renderString (s : String) : List Char := '"' :: (s.toList.flatMap escapeChar ++ ['"'])

mutual

/-- The compact ASCII text of a value, members in the order of the list. -/
def render : Json → List Char
  | .null => ['n', 'u', 'l', 'l']
  | .bool true => ['t', 'r', 'u', 'e']
  | .bool false => ['f', 'a', 'l', 's', 'e']
  | .int z => renderInt z
  | .float q => renderInt q.mantissa ++ 'e' :: renderInt q.exponent
  | .str s => renderString s
  | .arr [] => ['[', ']']
  | .arr (item :: items) => '[' :: (render item ++ renderItems items)
  | .obj [] => ['{', '}']
  | .obj ((key, value) :: members) =>
    '{' :: (renderString key ++ ':' :: (render value ++ renderMembers members))

def renderItems : List Json → List Char
  | [] => [']']
  | item :: items => ',' :: (render item ++ renderItems items)

def renderMembers : List (String × Json) → List Char
  | [] => ['}']
  | (key, value) :: members =>
    ',' :: (renderString key ++ ':' :: (render value ++ renderMembers members))

end

/-! ## Reading -/

def isSpace (c : Char) : Bool := c = ' ' || c = '\t' || c = '\n' || c = '\r'

def skipSpace (cs : List Char) : List Char := cs.dropWhile isSpace

def isDigit (c : Char) : Bool := '0' ≤ c && c ≤ '9'

def ofDigits (digits : List Char) : ℕ := digits.foldl (fun n c ↦ 10 * n + (c.toNat - 48)) 0

/-- The integer part of a number: no leading zero. -/
def parseNat : List Char → Option (ℕ × List Char)
  | '0' :: rest => some (0, rest)
  | cs =>
    if (cs.takeWhile isDigit).isEmpty then none
    else some (ofDigits (cs.takeWhile isDigit), cs.dropWhile isDigit)

/-- The fraction of a number, as its digits. -/
def parseFraction : List Char → List Char × List Char
  | '.' :: rest =>
    if (rest.takeWhile isDigit).isEmpty then ([], '.' :: rest)
    else (rest.takeWhile isDigit, rest.dropWhile isDigit)
  | cs => ([], cs)

/-- Whether a number is negative, and the text after its sign. -/
def splitSign : List Char → Bool × List Char
  | '-' :: rest => (true, rest)
  | cs => (false, cs)

def applySign (negative : Bool) (z : ℤ) : ℤ := if negative then -z else z

/-- An exponent may also carry a plus sign. -/
def dropPlus : List Char → List Char
  | '+' :: rest => rest
  | cs => cs

/-- A sign, `+` allowed, and digits. -/
def parseExponentValue (cs : List Char) : Option (ℤ × List Char) :=
  let (negative, digits) := splitSign (dropPlus cs)
  if (digits.takeWhile isDigit).isEmpty then none
  else
    some (applySign negative (ofDigits (digits.takeWhile isDigit)), digits.dropWhile isDigit)

def parseExponent : List Char → Option (ℤ × List Char)
  | c :: rest => if c = 'e' ∨ c = 'E' then parseExponentValue rest else none
  | [] => none

/-- A number is a float as soon as it has a fraction or an exponent. -/
def parseNumber (cs : List Char) : Option (Json × List Char) := do
  let (negative, unsigned) := splitSign cs
  let (n, afterInt) ← parseNat unsigned
  let (fraction, afterFraction) := parseFraction afterInt
  let signed := applySign negative (n * 10 ^ fraction.length + ofDigits fraction)
  match parseExponent afterFraction with
  | some (exponent, rest) => return (.float (.ofParts signed (exponent - fraction.length)), rest)
  | none =>
    if fraction.isEmpty then return (.int signed, afterFraction)
    else return (.float (.ofParts signed (-fraction.length)), afterFraction)

def hexValue (c : Char) : Option ℕ :=
  if '0' ≤ c ∧ c ≤ '9' then some (c.toNat - 48)
  else if 'a' ≤ c ∧ c ≤ 'f' then some (c.toNat - 87)
  else if 'A' ≤ c ∧ c ≤ 'F' then some (c.toNat - 55)
  else none

def parseUnit : List Char → Option (ℕ × List Char)
  | a :: b :: c :: d :: rest => do
    return (4096 * (← hexValue a) + 256 * (← hexValue b) + 16 * (← hexValue c) + (← hexValue d), rest)
  | _ => none

/-- The character after `\u`; a high surrogate needs its low half. -/
def parseEscapedUnit (cs : List Char) : Option (Char × List Char) := do
  let (unit, rest) ← parseUnit cs
  if unit < 0xd800 ∨ 0xe000 ≤ unit then return (Char.ofNat unit, rest)
  else if 0xdc00 ≤ unit then none
  else
    match rest with
    | '\\' :: 'u' :: rest =>
      let (low, rest) ← parseUnit rest
      if 0xdc00 ≤ low ∧ low < 0xe000 then
        return (Char.ofNat (0x10000 + (unit - 0xd800) * 1024 + (low - 0xdc00)), rest)
      else none
    | _ => none

/-- One character of a string body. -/
def parseChar : List Char → Option (Char × List Char)
  | '\\' :: 'u' :: rest => parseEscapedUnit rest
  | '\\' :: '/' :: rest => some ('/', rest)
  | '\\' :: letter :: rest =>
    (shortEscapes.find? fun escape ↦ escape.1 = letter).map fun escape ↦ (escape.2, rest)
  | c :: rest => if c = '\\' ∨ c.toNat < 0x20 then none else some (c, rest)
  | [] => none

/-- The body of a string, up to its closing quote. -/
def parseStringBody : ℕ → List Char → Option (List Char × List Char)
  | 0, _ => none
  | fuel + 1, cs =>
    match cs with
    | '"' :: rest => some ([], rest)
    | cs => do
      let (c, rest) ← parseChar cs
      let (body, rest) ← parseStringBody fuel rest
      return (c :: body, rest)

def parseString : List Char → Option (String × List Char)
  | '"' :: rest => (parseStringBody (rest.length + 1) rest).map fun p ↦ (String.ofList p.1, p.2)
  | _ => none

mutual

/-- A value, with the text after it. -/
def parseValue : ℕ → List Char → Option (Json × List Char)
  | 0, _ => none
  | fuel + 1, cs =>
    match cs with
    | 'n' :: 'u' :: 'l' :: 'l' :: rest => some (.null, rest)
    | 't' :: 'r' :: 'u' :: 'e' :: rest => some (.bool true, rest)
    | 'f' :: 'a' :: 'l' :: 's' :: 'e' :: rest => some (.bool false, rest)
    | '"' :: rest => (parseString ('"' :: rest)).map fun p ↦ (.str p.1, p.2)
    | '[' :: rest =>
      match skipSpace rest with
      | ']' :: rest => some (.arr [], rest)
      | rest => do
        let (item, rest) ← parseValue fuel rest
        let (items, rest) ← parseItems fuel (skipSpace rest)
        return (.arr (item :: items), rest)
    | '{' :: rest =>
      match skipSpace rest with
      | '}' :: rest => some (.obj [], rest)
      | rest => do
        let (key, value, rest) ← parseMember fuel rest
        let (members, rest) ← parseMembers fuel (skipSpace rest)
        return (.obj ((key, value) :: members), rest)
    | cs => parseNumber cs

/-- The rest of an array, after an item. -/
def parseItems : ℕ → List Char → Option (List Json × List Char)
  | 0, _ => none
  | fuel + 1, cs =>
    match cs with
    | ']' :: rest => some ([], rest)
    | ',' :: rest => do
      let (item, rest) ← parseValue fuel (skipSpace rest)
      let (items, rest) ← parseItems fuel (skipSpace rest)
      return (item :: items, rest)
    | _ => none

def parseMember : ℕ → List Char → Option (String × Json × List Char)
  | 0, _ => none
  | fuel + 1, cs => do
    let (key, rest) ← parseString cs
    match skipSpace rest with
    | ':' :: rest =>
      let (value, rest) ← parseValue fuel (skipSpace rest)
      return (key, value, rest)
    | _ => none

/-- The rest of an object, after a member. -/
def parseMembers : ℕ → List Char → Option (List (String × Json) × List Char)
  | 0, _ => none
  | fuel + 1, cs =>
    match cs with
    | '}' :: rest => some ([], rest)
    | ',' :: rest => do
      let (key, value, rest) ← parseMember fuel (skipSpace rest)
      let (members, rest) ← parseMembers fuel (skipSpace rest)
      return ((key, value) :: members, rest)
    | _ => none

end

/-- A whole text. -/
def parse (text : List Char) : Option Json := do
  let (value, rest) ← parseValue (text.length + 1) (skipSpace text)
  if skipSpace rest = [] then return value else none

/-! ## Numbers read back -/

theorem digitChar_toNat : ∀ d < 10, (digitChar d).toNat - 48 = d := by decide

theorem isDigit_digitChar : ∀ d < 10, isDigit (digitChar d) = true := by decide

theorem digitChar_ne_zero : ∀ d < 10, d ≠ 0 → digitChar d ≠ '0' := by decide

theorem isDigit_of_mem_decDigits {fuel n : ℕ} {c : Char} (h : c ∈ decDigits fuel n) :
    isDigit c = true := by
  induction fuel generalizing n with
  | zero =>
    obtain rfl := List.mem_singleton.mp h
    exact isDigit_digitChar _ (Nat.mod_lt _ (by decide))
  | succ fuel ih =>
    rw [decDigits] at h
    split at h
    · rename_i hn
      obtain rfl := List.mem_singleton.mp h
      exact isDigit_digitChar n hn
    · rcases List.mem_append.mp h with h | h
      · exact ih h
      · obtain rfl := List.mem_singleton.mp h
        exact isDigit_digitChar _ (Nat.mod_lt _ (by decide))

theorem ofDigits_concat (digits : List Char) (c : Char) :
    ofDigits (digits ++ [c]) = 10 * ofDigits digits + (c.toNat - 48) := by
  simp [ofDigits, List.foldl_append]

theorem ofDigits_decDigits {fuel n : ℕ} (h : n ≤ fuel) : ofDigits (decDigits fuel n) = n := by
  induction fuel generalizing n with
  | zero =>
    obtain rfl := Nat.le_zero.mp h
    decide
  | succ fuel ih =>
    rw [decDigits]
    split
    · rename_i hn
      simp [ofDigits, digitChar_toNat n hn]
    · rw [ofDigits_concat, ih (by omega), digitChar_toNat _ (Nat.mod_lt _ (by decide))]
      omega

theorem decDigits_ne_nil (fuel n : ℕ) : decDigits fuel n ≠ [] := by
  cases fuel with
  | zero => simp [decDigits]
  | succ fuel =>
    rw [decDigits]
    split <;> simp

/-- No leading zero. -/
theorem head?_decDigits {fuel n : ℕ} (hn : n ≠ 0) (h : n ≤ fuel) :
    (decDigits fuel n).head? ≠ some '0' := by
  induction fuel generalizing n with
  | zero => exact absurd (Nat.le_zero.mp h) hn
  | succ fuel ih =>
    rw [decDigits]
    split
    · rename_i hlt
      simpa using digitChar_ne_zero n hlt hn
    · rw [List.head?_append_of_ne_nil _ (decDigits_ne_nil _ _)]
      exact ih (by omega) (by omega)

/-- The text after a number does not continue it. -/
def Stops (rest : List Char) : Prop :=
  ∀ c ∈ rest.head?, isDigit c = false ∧ c ≠ '.' ∧ c ≠ 'e' ∧ c ≠ 'E'

theorem stops_cons {c : Char} {rest : List Char} (h : isDigit c = false ∧ c ≠ '.' ∧ c ≠ 'e' ∧ c ≠ 'E') :
    Stops (c :: rest) := by
  intro c' hc'
  obtain rfl := Option.some_inj.mp hc'
  exact h

theorem stops_nil : Stops [] := by
  intro c hc
  cases hc

/-- The text does not start with a digit. -/
def NoDigit (rest : List Char) : Prop := ∀ c ∈ rest.head?, isDigit c = false

theorem Stops.noDigit {rest : List Char} (h : Stops rest) : NoDigit rest := fun c hc ↦ (h c hc).1

theorem span_digits {digits rest : List Char} (hdigits : ∀ c ∈ digits, isDigit c = true)
    (hrest : NoDigit rest) : (digits ++ rest).takeWhile isDigit = digits ∧
      (digits ++ rest).dropWhile isDigit = rest := by
  rw [List.takeWhile_append_of_pos hdigits, List.dropWhile_append_of_pos hdigits]
  cases rest with
  | nil => simp
  | cons c rest => simp [hrest c rfl]

theorem parseNat_render (n : ℕ) {rest : List Char} (hrest : NoDigit rest) :
    parseNat (renderNat n ++ rest) = some (n, rest) := by
  by_cases hn : n = 0
  · subst hn
    rfl
  · obtain ⟨htake, hdrop⟩ := span_digits
      (fun c hc ↦ @isDigit_of_mem_decDigits n n c hc) hrest
    have hhead := head?_decDigits hn le_rfl
    rw [renderNat, parseNat]
    · rw [htake, hdrop, if_neg (by simpa using decDigits_ne_nil n n), ofDigits_decDigits le_rfl]
    · rintro tail heq
      rw [← @List.head?_append_of_ne_nil _ _ rest (decDigits_ne_nil n n), heq] at hhead
      exact hhead rfl

theorem head?_renderNat {n : ℕ} {c : Char} (h : c ∈ (renderNat n).head?) : isDigit c = true :=
  isDigit_of_mem_decDigits (List.mem_of_mem_head? h)

/-- A text that starts with a digit starts with no sign. -/
theorem renderNat_append_ne (n : ℕ) (rest : List Char) {c : Char} (hc : isDigit c = false)
    (tail : List Char) : renderNat n ++ rest ≠ c :: tail := by
  intro heq
  have hhead : c ∈ (renderNat n).head? := by
    rw [renderNat, ← @List.head?_append_of_ne_nil _ _ rest (decDigits_ne_nil n n),
      ← renderNat, heq]
    rfl
  rw [head?_renderNat hhead] at hc
  cases hc

theorem splitSign_renderNat (n : ℕ) (rest : List Char) :
    splitSign (renderNat n ++ rest) = (false, renderNat n ++ rest) := by
  rw [splitSign]
  exact renderNat_append_ne n rest (by decide)

theorem dropPlus_of_ne {cs : List Char} (h : ∀ tail, cs ≠ '+' :: tail) : dropPlus cs = cs := by
  rw [dropPlus]
  exact h

/-- A rendered integer is a sign and the digits of its absolute value. -/
theorem splitSign_renderInt (z : ℤ) (rest : List Char) :
    ∃ negative n, splitSign (renderInt z ++ rest) = (negative, renderNat n ++ rest) ∧
      applySign negative n = z := by
  cases z with
  | ofNat n => exact ⟨false, n, splitSign_renderNat n rest, rfl⟩
  | negSucc n => exact ⟨true, n + 1, rfl, rfl⟩

theorem dropPlus_renderInt (z : ℤ) (rest : List Char) :
    dropPlus (renderInt z ++ rest) = renderInt z ++ rest := by
  cases z with
  | ofNat n => exact dropPlus_of_ne (renderNat_append_ne n rest (by decide))
  | negSucc n => rfl

theorem parseExponentValue_render (z : ℤ) {rest : List Char} (hrest : NoDigit rest) :
    parseExponentValue (renderInt z ++ rest) = some (z, rest) := by
  obtain ⟨negative, n, hsplit, hsign⟩ := splitSign_renderInt z rest
  obtain ⟨htake, hdrop⟩ := span_digits
    (fun c hc ↦ @isDigit_of_mem_decDigits n n c hc) hrest
  rw [parseExponentValue, dropPlus_renderInt, hsplit]
  simp only [renderNat, htake, hdrop, ofDigits_decDigits le_rfl, hsign]
  simp [decDigits_ne_nil]

theorem parseFraction_of_ne {rest : List Char} (h : ∀ tail, rest ≠ '.' :: tail) :
    parseFraction rest = ([], rest) := by
  rw [parseFraction]
  exact h

/-- The sign and the digits of a number, whatever its fraction and exponent are. -/
theorem parseNumber_renderInt (z : ℤ) {rest : List Char} (hrest : NoDigit rest)
    (hpoint : ∀ tail, rest ≠ '.' :: tail) :
    parseNumber (renderInt z ++ rest) = match parseExponent rest with
      | some (exponent, rest) => some (.float (.ofParts z exponent), rest)
      | none => some (.int z, rest) := by
  obtain ⟨negative, n, hsplit, hsign⟩ := splitSign_renderInt z rest
  have hmantissa : applySign negative (n * 10 ^ ([] : List Char).length + ofDigits []) = z := by
    simpa [ofDigits] using hsign
  rw [parseNumber, hsplit]
  simp only [parseNat_render n hrest, Option.bind_eq_bind, Option.bind_some,
    parseFraction_of_ne hpoint, hmantissa]
  cases parseExponent rest <;> simp

theorem Stops.ne_point {rest : List Char} (h : Stops rest) (tail : List Char) :
    rest ≠ '.' :: tail := by
  rintro rfl
  exact (h '.' rfl).2.1 rfl

theorem parseNumber_int (z : ℤ) {rest : List Char} (hrest : Stops rest) :
    parseNumber (renderInt z ++ rest) = some (.int z, rest) := by
  have hexponent : parseExponent rest = none := by
    cases rest with
    | nil => rfl
    | cons c rest =>
      obtain ⟨-, -, he, hE⟩ := hrest c rfl
      rw [parseExponent, if_neg (by simp [he, hE])]
  rw [parseNumber_renderInt z hrest.noDigit hrest.ne_point, hexponent]

theorem parseNumber_float (q : Decimal) {rest : List Char} (hrest : Stops rest) :
    parseNumber (renderInt q.mantissa ++ 'e' :: renderInt q.exponent ++ rest) =
      some (.float q, rest) := by
  have hexponent : parseExponent ('e' :: renderInt q.exponent ++ rest) = some (q.exponent, rest) := by
    rw [List.cons_append, parseExponent, if_pos (Or.inl rfl),
      parseExponentValue_render q.exponent hrest.noDigit]
  rw [List.append_assoc, parseNumber_renderInt q.mantissa
    (by rintro c hc; obtain rfl := Option.some_inj.mp hc; rfl) (by simp), hexponent]
  simp only [Decimal.ofParts_self]

/-! ## Strings read back -/

theorem hexValue_hexChar : ∀ d < 16, hexValue (hexChar d) = some d := by decide

theorem parseUnit_render {n : ℕ} (hn : n < 65536) (rest : List Char) :
    parseUnit ((renderUnit n).drop 2 ++ rest) = some (n, rest) := by
  have hvalue : 4096 * (n / 4096 % 16) + 256 * (n / 256 % 16) + 16 * (n / 16 % 16) + n % 16 = n := by
    omega
  simp only [renderUnit, List.drop_succ_cons, List.drop_zero, List.cons_append, List.nil_append,
    parseUnit, hexValue_hexChar _ (Nat.mod_lt _ (by decide : 0 < 16)), Option.pure_def,
    Option.bind_eq_bind, Option.bind_some, hvalue]

theorem renderUnit_append (n : ℕ) (rest : List Char) :
    renderUnit n ++ rest = '\\' :: 'u' :: ((renderUnit n).drop 2 ++ rest) := rfl

/-- A scalar value is not a surrogate. -/
theorem char_range (c : Char) : c.toNat < 0xd800 ∨ 0xdfff < c.toNat ∧ c.toNat < 0x110000 := by
  have h := c.valid
  unfold UInt32.isValidChar Nat.isValidChar at h
  exact h

theorem parseChar_renderUnit (c : Char) (hc : c.toNat < 0x10000) (rest : List Char) :
    parseChar (renderUnit c.toNat ++ rest) = some (c, rest) := by
  have hrange : c.toNat < 0xd800 ∨ 0xe000 ≤ c.toNat := by
    have := char_range c
    omega
  rw [renderUnit_append, parseChar, parseEscapedUnit, parseUnit_render hc]
  simp [hrange]

theorem parseEscapedUnit_pair {high low : ℕ} (hhigh : 0xd800 ≤ high ∧ high < 0xdc00)
    (hlow : 0xdc00 ≤ low ∧ low < 0xe000) (rest : List Char) :
    parseEscapedUnit ((renderUnit high).drop 2 ++ (renderUnit low ++ rest)) =
      some (Char.ofNat (0x10000 + (high - 0xd800) * 1024 + (low - 0xdc00)), rest) := by
  have hnot : ¬ (high < 0xd800 ∨ 0xe000 ≤ high) := by omega
  have hnot' : ¬ 0xdc00 ≤ high := by omega
  have hhigh' : high < 65536 := by omega
  have hlow' : low < 65536 := by omega
  rw [parseEscapedUnit, parseUnit_render hhigh', Option.bind_eq_bind, Option.bind_some]
  simp only [if_neg hnot, if_neg hnot', renderUnit_append, parseUnit_render hlow',
    Option.bind_some, if_pos hlow, Option.pure_def]

/-- Beyond the first plane a character is written as its two surrogates. -/
theorem parseChar_surrogates (c : Char) (hc : 0x10000 ≤ c.toNat) (rest : List Char) :
    parseChar (renderUnit (0xd800 + (c.toNat - 0x10000) / 1024) ++
      renderUnit (0xdc00 + (c.toNat - 0x10000) % 1024) ++ rest) = some (c, rest) := by
  have hrange := char_range c
  have hchar := Char.ofNat_toNat c
  generalize c.toNat = n at hc hrange hchar
  have hsum : 0x10000 + (0xd800 + (n - 0x10000) / 1024 - 0xd800) * 1024 +
      (0xdc00 + (n - 0x10000) % 1024 - 0xdc00) = n := by omega
  rw [List.append_assoc, renderUnit_append, parseChar,
    parseEscapedUnit_pair (by omega) (by omega), hsum, hchar]

theorem shortEscapes_spec : ∀ escape ∈ shortEscapes, escape.1 ≠ 'u' ∧ escape.1 ≠ '/' ∧
    (shortEscapes.find? fun e ↦ e.1 = escape.1) = some escape := by decide

theorem parseChar_escapeChar (c : Char) (rest : List Char) :
    parseChar (escapeChar c ++ rest) = some (c, rest) := by
  rw [escapeChar]
  split
  · rename_i escape hfind
    have hstands : escape.2 = c := by simpa using List.find?_some hfind
    obtain ⟨hu, hslash, hback⟩ := shortEscapes_spec escape (List.mem_of_find?_eq_some hfind)
    rw [List.cons_append, List.singleton_append, parseChar]
    · rw [hback, Option.map_some, hstands]
    · exact fun heq ↦ hu heq
    · exact fun heq ↦ hslash heq
  · rename_i hfind
    have hplain : c ≠ '\\' := by
      rintro rfl
      revert hfind
      decide
    split
    · rename_i hprintable
      rw [List.singleton_append, parseChar]
      · rw [if_neg]
        rintro (h | h)
        · exact hplain h
        · omega
      · rintro tail h -
        exact hplain h
      · rintro tail h -
        exact hplain h
      · rintro letter tail h -
        exact hplain h
    · split
      · rename_i hlt
        exact parseChar_renderUnit c hlt rest
      · rename_i hge
        exact parseChar_surrogates c (not_lt.mp hge) rest

/-- An escaped character is not the closing quote. -/
theorem escapeChar_head (c : Char) : ∃ head tail, escapeChar c = head :: tail ∧ head ≠ '"' := by
  rw [escapeChar]
  split
  · exact ⟨_, _, rfl, by decide⟩
  · rename_i hfind
    split
    · refine ⟨_, _, rfl, ?_⟩
      rintro rfl
      revert hfind
      decide
    · split
      · exact ⟨_, _, rfl, by decide⟩
      · exact ⟨_, _, rfl, by decide⟩

theorem parseStringBody_escape (cs : List Char) (rest : List Char) {fuel : ℕ}
    (hfuel : cs.length < fuel) :
    parseStringBody fuel (cs.flatMap escapeChar ++ '"' :: rest) = some (cs, rest) := by
  induction cs generalizing fuel with
  | nil =>
    obtain ⟨fuel, rfl⟩ := Nat.exists_eq_succ_of_ne_zero (Nat.ne_of_gt hfuel)
    rfl
  | cons c cs ih =>
    obtain ⟨fuel, rfl⟩ := Nat.exists_eq_succ_of_ne_zero (Nat.ne_zero_of_lt hfuel)
    obtain ⟨head, tail, hhead, hne⟩ := escapeChar_head c
    rw [List.flatMap_cons, List.append_assoc, parseStringBody, parseChar_escapeChar]
    · simp [ih (Nat.lt_of_succ_lt_succ hfuel)]
    · intro tail' heq
      rw [hhead, List.cons_append] at heq
      exact hne (List.cons.inj heq).1

theorem length_le_flatMap_escapeChar (cs : List Char) :
    cs.length ≤ (cs.flatMap escapeChar).length := by
  induction cs with
  | nil => simp
  | cons c cs ih =>
    obtain ⟨head, tail, hhead, -⟩ := escapeChar_head c
    rw [List.flatMap_cons, List.length_append, hhead, List.length_cons, List.length_cons]
    omega

theorem parseString_render (s : String) (rest : List Char) :
    parseString (renderString s ++ rest) = some (s, rest) := by
  have hlength := length_le_flatMap_escapeChar s.toList
  rw [renderString, List.cons_append, parseString, List.append_assoc, List.singleton_append,
    parseStringBody_escape]
  · simp
  · rw [List.length_append, List.length_cons]
    omega

/-! ## Values read back -/

theorem skipSpace_cons {c : Char} (h : isSpace c = false) (cs : List Char) :
    skipSpace (c :: cs) = c :: cs := by
  rw [skipSpace, List.dropWhile_cons_of_neg (by simp [h])]

theorem renderInt_head (z : ℤ) : ∃ c tail, renderInt z = c :: tail ∧ (c = '-' ∨ isDigit c = true) := by
  cases z with
  | ofNat n =>
    obtain ⟨c, tail, h⟩ := List.exists_cons_of_ne_nil (decDigits_ne_nil n n)
    exact ⟨c, tail, h, Or.inr (head?_renderNat (n := n) (by rw [renderNat, h]; rfl))⟩
  | negSucc n => exact ⟨'-', _, rfl, Or.inl rfl⟩

/-- A rendered value starts neither with white space nor with a closing bracket. -/
theorem render_head (j : Json) :
    ∃ c tail, render j = c :: tail ∧ isSpace c = false ∧ c ≠ ']' ∧ c ≠ '}' := by
  have hnumber : ∀ c, c = '-' ∨ isDigit c = true → isSpace c = false ∧ c ≠ ']' ∧ c ≠ '}' := by
    rintro c (rfl | h)
    · decide
    · refine ⟨?_, ?_, ?_⟩
      · by_contra hspace
        simp only [isSpace, Bool.not_eq_false, Bool.or_eq_true, decide_eq_true_eq] at hspace
        rcases hspace with ((rfl | rfl) | rfl) | rfl <;> revert h <;> decide
      · rintro rfl
        revert h
        decide
      · rintro rfl
        revert h
        decide
  match j with
  | .null => exact ⟨_, _, rfl, by decide⟩
  | .bool true => exact ⟨_, _, rfl, by decide⟩
  | .bool false => exact ⟨_, _, rfl, by decide⟩
  | .int z =>
    obtain ⟨c, tail, hz, hc⟩ := renderInt_head z
    exact ⟨c, tail, by rw [render, hz], hnumber c hc⟩
  | .float q =>
    obtain ⟨c, tail, hz, hc⟩ := renderInt_head q.mantissa
    exact ⟨c, tail ++ 'e' :: renderInt q.exponent, by rw [render, hz, List.cons_append], hnumber c hc⟩
  | .str s => exact ⟨_, _, by rw [render, renderString], by decide⟩
  | .arr [] => exact ⟨_, _, by rw [render], by decide⟩
  | .arr (_ :: _) => exact ⟨_, _, by rw [render], by decide⟩
  | .obj [] => exact ⟨_, _, by rw [render], by decide⟩
  | .obj (_ :: _) => exact ⟨_, _, by rw [render], by decide⟩

theorem skipSpace_render (j : Json) (rest : List Char) :
    skipSpace (render j ++ rest) = render j ++ rest := by
  obtain ⟨c, tail, h, hspace, -⟩ := render_head j
  rw [h, List.cons_append, skipSpace_cons hspace]

theorem skipSpace_renderString (s : String) (rest : List Char) :
    skipSpace (renderString s ++ rest) = renderString s ++ rest := by
  rw [renderString, List.cons_append, skipSpace_cons (by decide)]

theorem skipSpace_renderItems (items : List Json) (rest : List Char) :
    skipSpace (renderItems items ++ rest) = renderItems items ++ rest := by
  cases items <;> rw [renderItems, List.cons_append, skipSpace_cons (by decide)]

theorem skipSpace_renderMembers (members : List (String × Json)) (rest : List Char) :
    skipSpace (renderMembers members ++ rest) = renderMembers members ++ rest := by
  cases members <;> rw [renderMembers, List.cons_append, skipSpace_cons (by decide)]

theorem stops_renderItems (items : List Json) (rest : List Char) :
    Stops (renderItems items ++ rest) := by
  cases items <;> rw [renderItems, List.cons_append] <;> exact stops_cons (by decide)

theorem stops_renderMembers (members : List (String × Json)) (rest : List Char) :
    Stops (renderMembers members ++ rest) := by
  cases members <;> rw [renderMembers, List.cons_append] <;> exact stops_cons (by decide)

/-- What starts like a number is read as one. -/
theorem parseValue_number {c : Char} (hc : c = '-' ∨ isDigit c = true) (fuel : ℕ)
    (tail : List Char) : parseValue (fuel + 1) (c :: tail) = parseNumber (c :: tail) := by
  rw [parseValue]
  all_goals
    intro _ heq
    obtain ⟨rfl, -⟩ := List.cons.inj heq
    revert hc
    decide

theorem parseMember_render (key : String) {value : Json} {fuel : ℕ} {after : List Char}
    (hvalue : parseValue fuel (render value ++ after) = some (value, after)) :
    parseMember (fuel + 1) (renderString key ++ ':' :: (render value ++ after)) =
      some (key, value, after) := by
  rw [parseMember, parseString_render, Option.bind_eq_bind, Option.bind_some]
  simp only [skipSpace_cons (by decide : isSpace ':' = false), skipSpace_render, hvalue,
    Option.bind_eq_bind, Option.bind_some, Option.pure_def]

mutual

/-- A value is read back, whatever stops it. -/
theorem parseValue_render : ∀ (j : Json) (fuel : ℕ), (render j).length ≤ fuel →
    ∀ {rest : List Char}, Stops rest → parseValue fuel (render j ++ rest) = some (j, rest)
  | j, 0, hfuel, _, _ => by
    obtain ⟨c, tail, h, -⟩ := render_head j
    rw [h] at hfuel
    cases hfuel
  | .null, _ + 1, _, _, _ => rfl
  | .bool true, _ + 1, _, _, _ => rfl
  | .bool false, _ + 1, _, _, _ => rfl
  | .int z, fuel + 1, _, rest, hrest => by
    obtain ⟨c, tail, hz, hc⟩ := renderInt_head z
    have hnumber := parseNumber_int z hrest
    rw [render, hz, List.cons_append] at *
    rw [parseValue_number hc, hnumber]
  | .float q, fuel + 1, _, rest, hrest => by
    obtain ⟨c, tail, hz, hc⟩ := renderInt_head q.mantissa
    have hnumber := parseNumber_float q hrest
    rw [render, hz, List.cons_append, List.cons_append] at *
    rw [parseValue_number hc, hnumber]
  | .str s, fuel + 1, _, rest, _ => by
    have hstring := parseString_render s rest
    rw [renderString, List.cons_append] at hstring
    rw [render, renderString, List.cons_append, parseValue, hstring, Option.map_some]
  | .arr [], fuel + 1, _, rest, _ => by
    rw [render]
    rfl
  | .arr (item :: items), fuel + 1, hfuel, rest, _ => by
    rw [render, List.length_cons, List.length_append] at hfuel
    have hitem := parseValue_render item fuel (by omega)
      (stops_renderItems items rest)
    have hitems := parseItems_render items fuel (by omega) rest
    obtain ⟨c, tail, hhead, -, hne, -⟩ := render_head item
    rw [render, List.cons_append, List.append_assoc, parseValue, skipSpace_render]
    split
    · rename_i heq
      rw [hhead, List.cons_append] at heq
      exact absurd (List.cons.inj heq).1 hne
    · rw [hitem, Option.bind_eq_bind, Option.bind_some]
      simp only [skipSpace_renderItems, hitems, Option.bind_eq_bind, Option.bind_some,
        Option.pure_def]
  | .obj [], fuel + 1, _, rest, _ => by
    rw [render]
    rfl
  | .obj ((key, value) :: members), fuel + 1, hfuel, rest, _ => by
    rw [render, List.length_cons, List.length_append, List.length_cons, List.length_append] at hfuel
    obtain ⟨fuel, rfl⟩ := Nat.exists_eq_succ_of_ne_zero (n := fuel) (by omega)
    have hmember := parseMember_render key (parseValue_render value fuel (by omega)
      (stops_renderMembers members rest))
    have hmembers := parseMembers_render members (fuel + 1) (by omega) rest
    rw [render, List.cons_append, List.append_assoc, List.cons_append, List.append_assoc,
      parseValue, skipSpace_renderString]
    split
    · rename_i heq
      rw [renderString, List.cons_append] at heq
      exact absurd (List.cons.inj heq).1 (by decide)
    · rw [hmember, Option.bind_eq_bind, Option.bind_some]
      simp only [skipSpace_renderMembers, hmembers, Option.bind_eq_bind, Option.bind_some,
        Option.pure_def]

theorem parseItems_render : ∀ (items : List Json) (fuel : ℕ), (renderItems items).length ≤ fuel →
    ∀ rest : List Char, parseItems fuel (renderItems items ++ rest) = some (items, rest)
  | [], 0, hfuel, _ => by cases hfuel
  | _ :: _, 0, hfuel, _ => by cases hfuel
  | [], _ + 1, _, rest => by
    rw [renderItems]
    rfl
  | item :: items, fuel + 1, hfuel, rest => by
    rw [renderItems, List.length_cons, List.length_append] at hfuel
    have hitem := parseValue_render item fuel (by omega)
      (stops_renderItems items rest)
    have hitems := parseItems_render items fuel (by omega) rest
    rw [renderItems, List.cons_append, List.append_assoc, parseItems, skipSpace_render, hitem,
      Option.bind_eq_bind, Option.bind_some]
    simp only [skipSpace_renderItems, hitems, Option.bind_eq_bind, Option.bind_some,
      Option.pure_def]

theorem parseMembers_render : ∀ (members : List (String × Json)) (fuel : ℕ),
    (renderMembers members).length ≤ fuel →
    ∀ rest : List Char, parseMembers fuel (renderMembers members ++ rest) = some (members, rest)
  | [], 0, hfuel, _ => by cases hfuel
  | _ :: _, 0, hfuel, _ => by cases hfuel
  | [], _ + 1, _, rest => by
    rw [renderMembers]
    rfl
  | (key, value) :: members, fuel + 1, hfuel, rest => by
    rw [renderMembers, List.length_cons, List.length_append, List.length_cons,
      List.length_append] at hfuel
    obtain ⟨fuel, rfl⟩ := Nat.exists_eq_succ_of_ne_zero (n := fuel) (by omega)
    have hmember := parseMember_render key (parseValue_render value fuel (by omega)
      (stops_renderMembers members rest))
    have hmembers := parseMembers_render members (fuel + 1) (by omega) rest
    rw [renderMembers, List.cons_append, List.append_assoc, List.cons_append, List.append_assoc,
      parseMembers, skipSpace_renderString, hmember, Option.bind_eq_bind, Option.bind_some]
    simp only [skipSpace_renderMembers, hmembers, Option.bind_eq_bind, Option.bind_some,
      Option.pure_def]

end

/-- **A written text reads back as the value.** -/
theorem parse_render (j : Json) : parse (render j) = some j := by
  have hvalue := parseValue_render j ((render j).length + 1) (by omega) stops_nil
  rw [List.append_nil] at hvalue
  have hskip := skipSpace_render j []
  rw [List.append_nil] at hskip
  rw [parse, hskip, hvalue]
  rfl

theorem render_injective {j k : Json} (h : render j = render k) : j = k :=
  Option.some_inj.mp (by rw [← parse_render j, ← parse_render k, h])

/-- A written text ends where it ends, whatever follows. -/
theorem render_append_inj {j k : Json} {rest rest' : List Char} (hrest : Stops rest)
    (hrest' : Stops rest') (h : render j ++ rest = render k ++ rest') : j = k ∧ rest = rest' := by
  have hj := parseValue_render j ((render j).length + (render k).length) (by omega) hrest
  have hk := parseValue_render k ((render j).length + (render k).length) (by omega) hrest'
  rw [h, hk] at hj
  obtain ⟨rfl, rfl⟩ := Prod.mk.inj (Option.some.inj hj)
  exact ⟨rfl, rfl⟩

instance : DecidableEq Json := fun _ _ ↦
  decidable_of_iff _ ⟨render_injective, fun h ↦ congrArg render h⟩

/-! ## Dictionaries

The members of a dictionary in strictly increasing order of their keys. -/

/-- Put a member where its key belongs, over an equal key. -/
def insertMember (key : String) (value : Json) :
    List (String × Json) → List (String × Json)
  | [] => [(key, value)]
  | (key', value') :: members =>
    if key < key' then (key, value) :: (key', value') :: members
    else if key = key' then (key, value) :: members
    else (key', value') :: insertMember key value members

mutual

/-- The value with the members of every object in order, the last of equal keys kept. -/
def normal : Json → Json
  | .null => .null
  | .bool b => .bool b
  | .int z => .int z
  | .float q => .float q
  | .str s => .str s
  | .arr items => .arr (normalItems items)
  | .obj members => .obj (normalMembers members [])

def normalItems : List Json → List Json
  | [] => []
  | item :: items => normal item :: normalItems items

/-- The members, put one after the other into a dictionary. -/
def normalMembers : List (String × Json) → List (String × Json) → List (String × Json)
  | [], dictionary => dictionary
  | (key, value) :: members, dictionary =>
    normalMembers members (insertMember key (normal value) dictionary)

end

/-- Strictly increasing keys, and values in normal form. -/
def Dictionary (members : List (String × Json)) : Prop :=
  members.Pairwise (fun m m' ↦ m.1 < m'.1) ∧ ∀ m ∈ members, normal m.2 = m.2

instance (members : List (String × Json)) : Decidable (Dictionary members) :=
  inferInstanceAs (Decidable (_ ∧ _))

theorem mem_insertMember {key : String} {value : Json} {members : List (String × Json)}
    {m : String × Json} (h : m ∈ insertMember key value members) :
    m = (key, value) ∨ m ∈ members := by
  induction members with
  | nil => exact Or.inl (List.mem_singleton.mp h)
  | cons m' members ih =>
    obtain ⟨key', value'⟩ := m'
    rw [insertMember] at h
    split at h
    · exact (List.mem_cons.mp h).imp_right id
    · split at h
      · exact (List.mem_cons.mp h).imp_right (List.mem_cons_of_mem _)
      · rcases List.mem_cons.mp h with h | h
        · exact Or.inr (h ▸ List.mem_cons_self ..)
        · exact (ih h).imp_right (List.mem_cons_of_mem _)

theorem Dictionary.insertMember {members : List (String × Json)} (h : Dictionary members)
    (key : String) {value : Json} (hvalue : normal value = value) :
    Dictionary (insertMember key value members) := by
  refine ⟨?_, fun m hm ↦ ?_⟩
  · obtain ⟨hsorted, -⟩ := h
    induction members with
    | nil => exact List.pairwise_singleton _ _
    | cons m' members ih =>
      obtain ⟨key', value'⟩ := m'
      obtain ⟨hhead, htail⟩ := List.pairwise_cons.mp hsorted
      rw [Json.insertMember]
      split
      · rename_i hlt
        refine List.pairwise_cons.mpr ⟨fun m hm ↦ ?_, hsorted⟩
        rcases List.mem_cons.mp hm with rfl | hm
        · exact hlt
        · exact hlt.trans (hhead m hm)
      · rename_i hnlt
        split
        · rename_i heq
          exact List.pairwise_cons.mpr ⟨fun m hm ↦ heq ▸ hhead m hm, htail⟩
        · rename_i hne
          refine List.pairwise_cons.mpr ⟨fun m hm ↦ ?_, ih htail⟩
          rcases mem_insertMember hm with rfl | hm
          · exact lt_of_le_of_ne (not_lt.mp hnlt) (Ne.symm hne)
          · exact hhead m hm
  · rcases mem_insertMember hm with rfl | hm
    · exact hvalue
    · exact h.2 m hm

/-- A key beyond all others goes to the end. -/
theorem insertMember_of_lt {members : List (String × Json)} {key : String} (value : Json)
    (h : ∀ m ∈ members, m.1 < key) : insertMember key value members = members ++ [(key, value)] := by
  induction members with
  | nil => rfl
  | cons m' members ih =>
    obtain ⟨key', value'⟩ := m'
    have hlt := h _ (List.mem_cons_self ..)
    rw [insertMember, if_neg hlt.not_gt, if_neg hlt.ne', ih fun m hm ↦ h m (List.mem_cons_of_mem _ hm)]
    rfl

/-- A dictionary is put together as it stands. -/
theorem normalMembers_append (dictionary members : List (String × Json))
    (h : Dictionary (dictionary ++ members)) : normalMembers members dictionary = dictionary ++ members := by
  induction members generalizing dictionary with
  | nil => rw [normalMembers, List.append_nil]
  | cons m members ih =>
    obtain ⟨key, value⟩ := m
    have hvalue : normal value = value := h.2 (key, value) (by simp)
    have hlt : ∀ m ∈ dictionary, m.1 < key := fun m hm ↦
      (List.pairwise_append.mp h.1).2.2 m hm (key, value) (List.mem_cons_self ..)
    rw [normalMembers, hvalue, insertMember_of_lt value hlt, ih _ (by simpa using h)]
    simp

theorem normalMembers_append_members (members members' dictionary : List (String × Json)) :
    normalMembers (members ++ members') dictionary =
      normalMembers members' (normalMembers members dictionary) := by
  induction members generalizing dictionary with
  | nil => rw [List.nil_append, normalMembers]
  | cons m members ih => rw [List.cons_append, normalMembers, normalMembers, ih]

/-- A dictionary has the keys that were put in. -/
theorem key_mem_of_mem_normalMembers {members dictionary : List (String × Json)} {m : String × Json}
    (h : m ∈ normalMembers members dictionary) : m.1 ∈ members.map Prod.fst ∨ m ∈ dictionary := by
  induction members generalizing dictionary with
  | nil =>
    rw [normalMembers] at h
    exact Or.inr h
  | cons m' members ih =>
    rw [normalMembers] at h
    rcases ih h with h | h
    · exact Or.inl (List.mem_cons_of_mem _ h)
    · rcases mem_insertMember h with rfl | h
      · exact Or.inl List.mem_cons_self
      · exact Or.inr h

theorem filter_key_fresh {key : String} {members : List (String × Json)}
    (h : ∀ m ∈ members, m.1 ≠ key) : members.filter (fun m ↦ m.1 = key) = [] ∧
      members.filter (fun m ↦ m.1 ≠ key) = members := by
  rw [List.filter_eq_nil_iff, List.filter_eq_self]
  exact ⟨by simpa using h, by simpa using h⟩

theorem filter_insertMember {key : String} (value : Json) {members : List (String × Json)}
    (h : ∀ m ∈ members, m.1 ≠ key) :
    (insertMember key value members).filter (fun m ↦ m.1 = key) = [(key, value)] ∧
      (insertMember key value members).filter (fun m ↦ m.1 ≠ key) = members := by
  induction members with
  | nil => simp [insertMember]
  | cons m members ih =>
    obtain ⟨key', value'⟩ := m
    obtain ⟨hhead, htail⟩ := List.forall_mem_cons.mp h
    have hne : ¬key' = key := hhead
    rw [insertMember]
    split
    · rw [List.filter_cons_of_pos (by simp), (filter_key_fresh h).1,
        List.filter_cons_of_neg (by simp), (filter_key_fresh h).2]
      exact ⟨rfl, rfl⟩
    · rw [if_neg (Ne.symm hhead), List.filter_cons_of_neg (by simpa using hne), (ih htail).1,
        List.filter_cons_of_pos (by simpa using hne), (ih htail).2]
      exact ⟨rfl, rfl⟩

/-- One more member is told from the others. -/
theorem normal_obj_snoc_inj {members members' : List (String × Json)} {key : String}
    {value value' : Json} (hkey : key ∉ members.map Prod.fst) (hkey' : key ∉ members'.map Prod.fst)
    (h : normal (.obj (members ++ [(key, value)])) = normal (.obj (members' ++ [(key, value')]))) :
    normal (.obj members) = normal (.obj members') ∧ normal value = normal value' := by
  have hfresh {members : List (String × Json)} (hkey : key ∉ members.map Prod.fst) :
      ∀ m ∈ normalMembers members [], m.1 ≠ key := by
    intro m hm heq
    rcases key_mem_of_mem_normalMembers hm with hm | hm
    · exact hkey (heq ▸ hm)
    · cases hm
  rw [normal, normal, Json.obj.injEq, normalMembers_append_members, normalMembers_append_members,
    normalMembers, normalMembers, normalMembers, normalMembers] at h
  obtain ⟨hvalue, hmembers⟩ := filter_insertMember (normal value) (hfresh hkey)
  obtain ⟨hvalue', hmembers'⟩ := filter_insertMember (normal value') (hfresh hkey')
  rw [h] at hvalue hmembers
  constructor
  · rw [normal, normal, ← hmembers, hmembers']
  · have hsame := hvalue.symm.trans hvalue'
    simpa using hsame

theorem Dictionary.normal_obj {members : List (String × Json)} (h : Dictionary members) :
    normal (.obj members) = .obj members := by
  rw [normal, normalMembers_append [] members (by rwa [List.nil_append]), List.nil_append]

theorem normal_arr {items : List Json} (h : ∀ item ∈ items, normal item = item) :
    normal (.arr items) = .arr items := by
  have hitems : normalItems items = items := by
    induction items with
    | nil => rfl
    | cons item items ih =>
      rw [normalItems, h item List.mem_cons_self, ih fun j hj ↦ h j (List.mem_cons_of_mem _ hj)]
  rw [normal, hitems]

mutual

/-- A normal form is normal. -/
theorem normal_normal : ∀ j : Json, normal (normal j) = normal j
  | .null => rfl
  | .bool _ => rfl
  | .int _ => rfl
  | .float _ => rfl
  | .str _ => rfl
  | .arr items => by rw [normal, normal, normalItems_normalItems items]
  | .obj members => by
    have h := dictionary_normalMembers members [] ⟨List.Pairwise.nil, by simp⟩
    have hself := normalMembers_append [] (normalMembers members [])
      (by rwa [List.nil_append])
    rw [normal, normal, hself, List.nil_append]

theorem normalItems_normalItems : ∀ items : List Json,
    normalItems (normalItems items) = normalItems items
  | [] => rfl
  | item :: items => by
    rw [normalItems, normalItems, normal_normal item, normalItems_normalItems items]

theorem dictionary_normalMembers : ∀ members dictionary : List (String × Json),
    Dictionary dictionary → Dictionary (normalMembers members dictionary)
  | [], _, h => by rwa [normalMembers]
  | (key, value) :: members, _, h => by
    rw [normalMembers]
    exact dictionary_normalMembers members _ (h.insertMember key (normal_normal value))

end

/-- A value that may be missing. -/
def ofOption {α : Type} (toJson : α → Json) : Option α → Json
  | none => .null
  | some a => toJson a

theorem normal_ofOption {α : Type} {toJson : α → Json} (h : ∀ a, normal (toJson a) = toJson a)
    (a : Option α) : normal (ofOption toJson a) = ofOption toJson a := by
  cases a with
  | none => rfl
  | some a => exact h a

theorem ofOption_inj {α : Type} {toJson : α → Json} (h : ∀ a a', toJson a = toJson a' → a = a')
    (hnull : ∀ a, toJson a ≠ .null) {a a' : Option α}
    (heq : ofOption toJson a = ofOption toJson a') : a = a' := by
  cases a with
  | none =>
    cases a' with
    | none => rfl
    | some a' => exact absurd heq.symm (hnull a')
  | some a =>
    cases a' with
    | none => exact absurd heq (hnull a)
    | some a' => rw [h a a' heq]

/-! ## Reading values -/

def bool? : Json → Option Bool
  | .bool b => some b
  | _ => none

def int? : Json → Option ℤ
  | .int z => some z
  | _ => none

def str? : Json → Option String
  | .str s => some s
  | _ => none

def obj? : Json → Option (List (String × Json))
  | .obj members => some members
  | _ => none

/-- A value that may be missing. -/
def orNull? {α : Type} (read : Json → Option α) : Json → Option (Option α)
  | .null => some none
  | j => (read j).map some

theorem orNull?_ofOption {α : Type} (toJson : α → Json) (read : Json → Option α)
    (h : ∀ a, read (toJson a) = some a ∧ toJson a ≠ .null) (a : Option α) :
    orNull? read (ofOption toJson a) = some a := by
  cases a with
  | none => rfl
  | some a =>
    obtain ⟨hread, hne⟩ := h a
    rw [ofOption, orNull?, hread, Option.map_some]
    exact hne

/-- A field of a record, with the default that stands in for a missing one. -/
def fieldOr {α : Type} (members : List (String × Json)) (key : String) (default : Option α)
    (read : Json → Option α) : Option α :=
  match members.lookup key with
  | none => default
  | some j => read j

/-! ## Texts -/

/-- Write a value, keys sorted, no white space, ASCII only. -/
def dumps (j : Json) : String := String.ofList (render (normal j))

/-- Read a value; of equal keys the last counts. -/
def loads (text : String) : Option Json := (parse text.toList).map normal

/-- **The round trip** of a value is its normal form. -/
theorem loads_dumps (j : Json) : loads (dumps j) = some (normal j) := by
  rw [loads, dumps, String.toList_ofList, parse_render, Option.map_some, normal_normal]

/-- **Equal texts are equal values**, up to the order of members. -/
theorem dumps_inj {j k : Json} : dumps j = dumps k ↔ normal j = normal k := by
  constructor
  · intro h
    exact Option.some_inj.mp (by rw [← loads_dumps, ← loads_dumps, h])
  · intro h
    rw [dumps, dumps, h]

/-! ## Printable texts -/

/-- A printable ASCII character. -/
def Printable (c : Char) : Prop := 0x20 ≤ c.toNat ∧ c.toNat ≤ 0x7e

instance (c : Char) : Decidable (Printable c) := inferInstanceAs (Decidable (_ ∧ _))

theorem printable_of_all {cs : List Char} (h : cs.all (fun c ↦ decide (Printable c)) = true) :
    ∀ c ∈ cs, Printable c :=
  fun c hc ↦ of_decide_eq_true (List.all_eq_true.mp h c hc)

theorem printable_of_isDigit {c : Char} (h : isDigit c = true) : Printable c := by
  rw [isDigit, Bool.and_eq_true, decide_eq_true_eq, decide_eq_true_eq, Char.le_def, Char.le_def,
    UInt32.le_iff_toNat_le, UInt32.le_iff_toNat_le] at h
  have hzero : '0'.val.toNat = 48 := rfl
  have hnine : '9'.val.toNat = 57 := rfl
  rw [hzero, hnine] at h
  exact ⟨by change 0x20 ≤ c.val.toNat; omega, by change c.val.toNat ≤ 0x7e; omega⟩

theorem printable_renderInt (z : ℤ) : ∀ c ∈ renderInt z, Printable c := by
  have hnat : ∀ n : ℕ, ∀ c ∈ renderNat n, Printable c :=
    fun n c hc ↦ printable_of_isDigit (isDigit_of_mem_decDigits hc)
  cases z with
  | ofNat n => exact hnat n
  | negSucc n => exact List.forall_mem_cons.mpr ⟨by decide, hnat (n + 1)⟩

theorem printable_hexChar : ∀ d < 16, Printable (hexChar d) := by decide

theorem printable_renderUnit (n : ℕ) : ∀ c ∈ renderUnit n, Printable c := by
  have hhex : ∀ m, Printable (hexChar (m % 16)) := fun m ↦
    printable_hexChar _ (Nat.mod_lt m (by decide))
  simp only [renderUnit, List.forall_mem_cons, List.not_mem_nil, false_imp_iff, implies_true, and_true]
  exact ⟨by decide, by decide, hhex _, hhex _, hhex _, hhex _⟩

theorem printable_shortEscapes : ∀ escape ∈ shortEscapes, Printable escape.1 := by decide

theorem printable_escapeChar (c : Char) : ∀ c' ∈ escapeChar c, Printable c' := by
  rw [escapeChar]
  split
  · next escape hfind =>
    have hescape := printable_shortEscapes escape (List.mem_of_find?_eq_some hfind)
    exact List.forall_mem_cons.mpr ⟨by decide, List.forall_mem_singleton.mpr hescape⟩
  · split
    · next hprintable => exact List.forall_mem_singleton.mpr hprintable
    · split
      · exact printable_renderUnit _
      · exact List.forall_mem_append.mpr ⟨printable_renderUnit _, printable_renderUnit _⟩

theorem printable_renderString (s : String) : ∀ c ∈ renderString s, Printable c := by
  refine List.forall_mem_cons.mpr ⟨by decide, List.forall_mem_append.mpr
    ⟨fun c hc ↦ ?_, printable_of_all rfl⟩⟩
  obtain ⟨c', -, hc'⟩ := List.mem_flatMap.mp hc
  exact printable_escapeChar c' c hc'

mutual

/-- **A text is printable ASCII.** -/
theorem printable_render : ∀ (j : Json), ∀ c ∈ render j, Printable c
  | .null => printable_of_all rfl
  | .bool true => printable_of_all rfl
  | .bool false => printable_of_all rfl
  | .int z => printable_renderInt z
  | .float q => List.forall_mem_append.mpr ⟨printable_renderInt q.mantissa,
      List.forall_mem_cons.mpr ⟨by decide, printable_renderInt q.exponent⟩⟩
  | .str s => printable_renderString s
  | .arr [] => printable_of_all rfl
  | .arr (item :: items) => List.forall_mem_cons.mpr ⟨by decide,
      List.forall_mem_append.mpr ⟨printable_render item, printable_renderItems items⟩⟩
  | .obj [] => printable_of_all rfl
  | .obj ((key, value) :: members) => List.forall_mem_cons.mpr ⟨by decide,
      List.forall_mem_append.mpr ⟨printable_renderString key, List.forall_mem_cons.mpr ⟨by decide,
        List.forall_mem_append.mpr ⟨printable_render value, printable_renderMembers members⟩⟩⟩⟩

theorem printable_renderItems : ∀ (items : List Json), ∀ c ∈ renderItems items, Printable c
  | [] => printable_of_all rfl
  | item :: items => List.forall_mem_cons.mpr ⟨by decide,
      List.forall_mem_append.mpr ⟨printable_render item, printable_renderItems items⟩⟩

theorem printable_renderMembers : ∀ (members : List (String × Json)),
    ∀ c ∈ renderMembers members, Printable c
  | [] => printable_of_all rfl
  | (key, value) :: members => List.forall_mem_cons.mpr ⟨by decide,
      List.forall_mem_append.mpr ⟨printable_renderString key, List.forall_mem_cons.mpr ⟨by decide,
        List.forall_mem_append.mpr ⟨printable_render value, printable_renderMembers members⟩⟩⟩⟩

end

/-! ## Lines -/

/-- Values written on one line each. -/
def dumpsLines (values : List Json) : String := "\n".intercalate (values.map dumps)

theorem toList_dumpsLines_cons (j : Json) (values : List Json) :
    (dumpsLines (j :: values)).toList = render (normal j) ++
      if values = [] then [] else '\n' :: (dumpsLines values).toList := by
  cases values with
  | nil => simp [dumpsLines, dumps]
  | cons k values =>
    rw [dumpsLines, List.map_cons, List.map_cons, String.intercalate_cons_cons, if_neg (by simp)]
    simp [dumpsLines, dumps]

/-- **The lines determine the values.** -/
theorem dumpsLines_inj : ∀ {values values' : List Json},
    dumpsLines values = dumpsLines values' ↔ values.map normal = values'.map normal
  | [], [] => by simp
  | [], k :: values' => by
    refine iff_of_false (fun h ↦ ?_) (by simp)
    obtain ⟨c, tail, hhead, -⟩ := render_head (normal k)
    have hlist := congrArg String.toList h
    rw [toList_dumpsLines_cons, hhead] at hlist
    cases hlist
  | j :: values, [] => by
    refine iff_of_false (fun h ↦ ?_) (by simp)
    obtain ⟨c, tail, hhead, -⟩ := render_head (normal j)
    have hlist := congrArg String.toList h
    rw [toList_dumpsLines_cons, hhead] at hlist
    cases hlist
  | j :: values, k :: values' => by
    have hstops : ∀ values : List Json,
        Stops (if values = [] then [] else '\n' :: (dumpsLines values).toList) := by
      intro values
      split
      · exact stops_nil
      · exact stops_cons (by decide)
    rw [List.map_cons, List.map_cons, List.cons.injEq]
    constructor
    · intro h
      have hlist := congrArg String.toList h
      rw [toList_dumpsLines_cons, toList_dumpsLines_cons] at hlist
      obtain ⟨hfirst, hrest⟩ := render_append_inj (hstops values) (hstops values') hlist
      refine ⟨hfirst, ?_⟩
      cases values with
      | nil =>
        cases values' with
        | nil => rfl
        | cons _ _ => cases hrest
      | cons _ _ =>
        cases values' with
        | nil => cases hrest
        | cons _ _ =>
          rw [if_neg (by simp), if_neg (by simp), List.cons.injEq] at hrest
          exact dumpsLines_inj.mp (String.toList_inj.mp hrest.2)
    · rintro ⟨hfirst, hrest⟩
      have hempty : values = [] ↔ values' = [] := by
        rw [← List.map_eq_nil_iff (f := normal), hrest, List.map_eq_nil_iff]
      refine String.toList_inj.mp ?_
      rw [toList_dumpsLines_cons, toList_dumpsLines_cons, hfirst, dumpsLines_inj.mpr hrest]
      simp only [hempty]

end Json
