import Mathlib.Data.List.DropRight
import Mathlib.Data.List.GetD
import Mathlib.Data.List.Nodup
import Mathlib.Tactic.Common

/-!
# Base64

Bytes in an alphabet of 64 symbols: four symbols for three bytes, with `=` in the place of those that
the last bytes leave over.

* `Alphabet.decode_encode` — what was encoded is decoded.
* `Alphabet.stripped_inj` — the padding carries nothing: texts without it come from the same bytes.
-/

set_option autoImplicit false

namespace Base64

abbrev Bytes := List UInt8

/-- 64 symbols, none of which is the padding. -/
structure Alphabet where
  symbols : List Char
  length_eq : symbols.length = 64
  nodup : symbols.Nodup
  pad : '=' ∉ symbols

/-- The standard alphabet. -/
def standard : Alphabet where
  symbols := "ABCDEFGHIJKLMNOPQRSTUVWXYZabcdefghijklmnopqrstuvwxyz0123456789+/".toList
  length_eq := by decide +kernel
  nodup := by decide +kernel
  pad := by decide +kernel

/-- The alphabet of URLs. -/
def urlSafe : Alphabet where
  symbols := "ABCDEFGHIJKLMNOPQRSTUVWXYZabcdefghijklmnopqrstuvwxyz0123456789-_".toList
  length_eq := by decide +kernel
  nodup := by decide +kernel
  pad := by decide +kernel

namespace Alphabet

variable (alphabet : Alphabet)

/-- The symbol of a number. -/
def symbol (n : ℕ) : Char := alphabet.symbols.getD n '='

/-- The number of a symbol. -/
def value? (c : Char) : Option ℕ := alphabet.symbols.idxOf? c

/-- The text of some bytes. -/
def encode : Bytes → List Char
  | [] => []
  | [x] => [alphabet.symbol (x.toNat / 4), alphabet.symbol (x.toNat % 4 * 16), '=', '=']
  | [x, y] => [alphabet.symbol (x.toNat / 4), alphabet.symbol (x.toNat % 4 * 16 + y.toNat / 16),
      alphabet.symbol (y.toNat % 16 * 4), '=']
  | x :: y :: z :: rest => alphabet.symbol (x.toNat / 4) ::
      alphabet.symbol (x.toNat % 4 * 16 + y.toNat / 16) ::
      alphabet.symbol (y.toNat % 16 * 4 + z.toNat / 64) :: alphabet.symbol (z.toNat % 64) :: encode rest

/-- The bytes of four symbols; the last four may end in padding. -/
def decodeGroup (c₀ c₁ c₂ c₃ : Char) (last : Bool) : Option Bytes :=
  match alphabet.value? c₀, alphabet.value? c₁, alphabet.value? c₂, alphabet.value? c₃ with
  | some m, some n, some p, some q =>
    some [UInt8.ofNat (m * 4 + n / 16), UInt8.ofNat (n % 16 * 16 + p / 4), UInt8.ofNat (p % 4 * 64 + q)]
  | some m, some n, some p, none =>
    if last ∧ c₃ = '=' then some [UInt8.ofNat (m * 4 + n / 16), UInt8.ofNat (n % 16 * 16 + p / 4)]
    else none
  | some m, some n, none, none =>
    if last ∧ c₂ = '=' ∧ c₃ = '=' then some [UInt8.ofNat (m * 4 + n / 16)] else none
  | _, _, _, _ => none

/-- The bytes of a text, if it is well formed. -/
def decode : List Char → Option Bytes
  | [] => some []
  | c₀ :: c₁ :: c₂ :: c₃ :: rest => do
    return (← alphabet.decodeGroup c₀ c₁ c₂ c₃ rest.isEmpty) ++ (← decode rest)
  | _ => none

variable {alphabet}

theorem symbol_mem {n : ℕ} (h : n < 64) : alphabet.symbol n ∈ alphabet.symbols := by
  have hn : n < alphabet.symbols.length := alphabet.length_eq.symm ▸ h
  rw [symbol, List.getD_eq_getElem _ _ hn]
  exact List.getElem_mem hn

theorem value?_symbol {n : ℕ} (h : n < 64) : alphabet.value? (alphabet.symbol n) = some n := by
  have hn : n < alphabet.symbols.length := alphabet.length_eq.symm ▸ h
  rw [symbol, List.getD_eq_getElem _ _ hn, value?, List.idxOf?_eq_some_iff]
  refine ⟨hn, rfl, fun j hj heq ↦ ?_⟩
  exact absurd ((alphabet.nodup.getElem_inj_iff).mp heq) (Nat.ne_of_lt hj)

theorem value?_pad : alphabet.value? '=' = none := List.idxOf?_eq_none_iff.mpr alphabet.pad

theorem ofNat_toNat_of_eq {x : UInt8} {n : ℕ} (h : n = x.toNat) : UInt8.ofNat n = x := by
  rw [h, UInt8.ofNat_toNat]

/-- **What was encoded is decoded.** -/
theorem decode_encode (bytes : Bytes) : alphabet.decode (alphabet.encode bytes) = some bytes := by
  fun_induction encode alphabet bytes with
  | case1 => rfl
  | case2 x =>
    have hx := x.toNat_lt
    have hgroup : alphabet.decodeGroup (alphabet.symbol (x.toNat / 4))
        (alphabet.symbol (x.toNat % 4 * 16)) '=' '=' true = some [x] := by
      rw [decodeGroup, value?_symbol (by omega), value?_symbol (by omega), value?_pad]
      simp only [and_self, if_true]
      rw [ofNat_toNat_of_eq (x := x) (by omega)]
    rw [decode, List.isEmpty_nil, hgroup]
    rfl
  | case3 x y =>
    have hx := x.toNat_lt
    have hy := y.toNat_lt
    have hgroup : alphabet.decodeGroup (alphabet.symbol (x.toNat / 4))
        (alphabet.symbol (x.toNat % 4 * 16 + y.toNat / 16)) (alphabet.symbol (y.toNat % 16 * 4)) '='
        true = some [x, y] := by
      rw [decodeGroup, value?_symbol (by omega), value?_symbol (by omega), value?_symbol (by omega),
        value?_pad]
      simp only [and_self, if_true]
      rw [ofNat_toNat_of_eq (x := x) (by omega), ofNat_toNat_of_eq (x := y) (by omega)]
    rw [decode, List.isEmpty_nil, hgroup]
    rfl
  | case4 x y z rest ih =>
    have hx := x.toNat_lt
    have hy := y.toNat_lt
    have hz := z.toNat_lt
    have hgroup (last : Bool) : alphabet.decodeGroup (alphabet.symbol (x.toNat / 4))
        (alphabet.symbol (x.toNat % 4 * 16 + y.toNat / 16))
        (alphabet.symbol (y.toNat % 16 * 4 + z.toNat / 64)) (alphabet.symbol (z.toNat % 64)) last =
          some [x, y, z] := by
      rw [decodeGroup, value?_symbol (by omega), value?_symbol (by omega), value?_symbol (by omega),
        value?_symbol (by omega)]
      dsimp only
      rw [ofNat_toNat_of_eq (x := x) (by omega), ofNat_toNat_of_eq (x := y) (by omega),
        ofNat_toNat_of_eq (x := z) (by omega)]
    rw [decode, hgroup, ih]
    rfl

theorem encode_injective : Function.Injective alphabet.encode := fun bytes bytes' h ↦
  Option.some.inj (((decode_encode bytes).symm.trans (congrArg _ h)).trans (decode_encode bytes'))

/-! ## Padding -/

variable (alphabet) in
/-- A text is symbols and then padding, up to a multiple of four. -/
theorem exists_encode (bytes : Bytes) : ∃ body padding, alphabet.encode bytes =
    body ++ List.replicate padding '=' ∧ (∀ c ∈ body, c ∈ alphabet.symbols) ∧ padding < 4 ∧
      (body.length + padding) % 4 = 0 := by
  fun_induction encode alphabet bytes with
  | case1 => exact ⟨[], 0, rfl, by simp, by decide, rfl⟩
  | case2 x =>
    have hx := x.toNat_lt
    refine ⟨[_, _], 2, rfl, ?_, by decide, by simp⟩
    simp only [List.forall_mem_cons, List.not_mem_nil, false_implies, implies_true, and_true]
    exact ⟨symbol_mem (by omega), symbol_mem (by omega)⟩
  | case3 x y =>
    have hx := x.toNat_lt
    have hy := y.toNat_lt
    refine ⟨[_, _, _], 1, rfl, ?_, by decide, by simp⟩
    simp only [List.forall_mem_cons, List.not_mem_nil, false_implies, implies_true, and_true]
    exact ⟨symbol_mem (by omega), symbol_mem (by omega), symbol_mem (by omega)⟩
  | case4 x y z rest ih =>
    have hx := x.toNat_lt
    have hy := y.toNat_lt
    have hz := z.toNat_lt
    obtain ⟨body, padding, hrest, hbody, hpadding, hlength⟩ := ih
    refine ⟨_ :: _ :: _ :: _ :: body, padding, by rw [hrest]; rfl, ?_, hpadding, ?_⟩
    · simp only [List.forall_mem_cons]
      exact ⟨symbol_mem (by omega), symbol_mem (by omega), symbol_mem (by omega),
        symbol_mem (by omega), hbody⟩
    · simp only [List.length_cons]
      omega

variable (alphabet) in
/-- The text without its padding. -/
def stripped (bytes : Bytes) : List Char := (alphabet.encode bytes).rdropWhile (· = '=')

theorem rdropWhile_replicate {body : List Char} (hbody : '=' ∉ body) (padding : ℕ) :
    (body ++ List.replicate padding '=').rdropWhile (· = '=') = body := by
  induction padding with
  | zero =>
    rw [List.replicate_zero, List.append_nil, List.rdropWhile_eq_self_iff]
    intro hne hlast
    exact hbody (of_decide_eq_true hlast ▸ List.getLast_mem hne)
  | succ padding ih =>
    rw [List.replicate_succ', ← List.append_assoc, List.rdropWhile_concat_pos _ _ _ (by simp), ih]

theorem mem_of_mem_stripped {bytes : Bytes} {c : Char} (h : c ∈ alphabet.stripped bytes) :
    c ∈ alphabet.symbols := by
  obtain ⟨body, padding, hencode, hbody, -⟩ := exists_encode alphabet bytes
  rw [stripped, hencode, rdropWhile_replicate fun hmem ↦ alphabet.pad (hbody _ hmem)] at h
  exact hbody c h

/-- **The padding carries nothing.** -/
theorem stripped_inj {bytes bytes' : Bytes} :
    alphabet.stripped bytes = alphabet.stripped bytes' ↔ bytes = bytes' := by
  refine ⟨fun h ↦ ?_, fun h ↦ by rw [h]⟩
  obtain ⟨body, padding, hencode, hbody, hpadding, hlength⟩ := exists_encode alphabet bytes
  obtain ⟨body', padding', hencode', hbody', hpadding', hlength'⟩ :=
    exists_encode alphabet bytes'
  rw [stripped, stripped, hencode, hencode', rdropWhile_replicate fun hmem ↦ alphabet.pad (hbody _ hmem),
    rdropWhile_replicate fun hmem ↦ alphabet.pad (hbody' _ hmem)] at h
  subst h
  obtain rfl : padding = padding' := by omega
  exact encode_injective (hencode.trans hencode'.symm)

end Alphabet

end Base64
