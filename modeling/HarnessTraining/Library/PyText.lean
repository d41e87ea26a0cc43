import Mathlib.Data.List.Basic
import Mathlib.Data.UInt
import Mathlib.Tactic.Common

/-!
# Python texts

A `str` is a sequence of code points: scalar values, and surrogates that stand alone.  UTF-8 has no
bytes for a surrogate; with the handler `surrogateescape` a byte that begins no well-formed sequence is
decoded to one.  Latin-1 has the code points below 256.

* `latin1_decode_iff` — which bytes come back from Latin-1 after they were decoded as UTF-8.
-/

set_option autoImplicit false

namespace Python

inductive CodePoint where
  | scalar (c : Char)
  /-- The surrogate `n` above U+D800. -/
  | surrogate (n : Fin 0x800)
  deriving DecidableEq

abbrev Text := List CodePoint

abbrev Bytes := List UInt8

instance : LawfulBEq Text := inferInstance

def ofString (s : String) : Text := s.toList.map .scalar

theorem scalar_injective : Function.Injective CodePoint.scalar := fun _ _ h ↦ CodePoint.scalar.inj h

theorem ofString_injective : Function.Injective ofString := fun _ _ h ↦
  String.toList_injective (scalar_injective.list_map h)

def CodePoint.toNat : CodePoint → ℕ
  | .scalar c => c.toNat
  | .surrogate n => 0xd800 + n

def CodePoint.isScalar : CodePoint → Bool
  | .scalar _ => true
  | .surrogate _ => false

/-- The text has an encoding in UTF-8. -/
def encodable (text : Text) : Bool := text.all CodePoint.isScalar

theorem encodable_ofString (s : String) : encodable (ofString s) = true := by
  rw [encodable, ofString, List.all_map]
  exact List.all_eq_true.mpr fun _ _ ↦ rfl

/-- `text.encode("latin-1")`, unless it raises. -/
def latin1 : Text → Option Bytes
  | [] => some []
  | .scalar c :: rest => if c.toNat < 0x100 then (latin1 rest).map (UInt8.ofNat c.toNat :: ·) else none
  | .surrogate _ :: _ => none

/-! ## UTF-8 -/

/-- The surrogate of a byte that cannot be decoded. -/
def escapeByte (b : UInt8) : CodePoint :=
  .surrogate ⟨(0x400 + b.toNat) % 0x800, Nat.mod_lt _ (by decide)⟩

/-- A continuation byte. -/
def isTail (b : UInt8) : Bool := 0x80 ≤ b && b ≤ 0xbf

/-- Two bytes that encode a scalar value. -/
def decodeTwo (a b : UInt8) : Option Char :=
  if (0xc2 ≤ a && a ≤ 0xdf && isTail b) = true then
    some (Char.ofNat (64 * (a.toNat - 0xc0) + (b.toNat - 0x80)))
  else none

/-- Three bytes that do: none for a surrogate, and none that has a shorter encoding. -/
def decodeThree (a b c : UInt8) : Option Char :=
  if ((0xe0 ≤ a && a ≤ 0xef && isTail b && isTail c) && (a ≠ 0xe0 || 0xa0 ≤ b) &&
      (a ≠ 0xed || b ≤ 0x9f)) = true then
    some (Char.ofNat (4096 * (a.toNat - 0xe0) + 64 * (b.toNat - 0x80) + (c.toNat - 0x80)))
  else none

/-- Four bytes that do. -/
def decodeFour (a b c d : UInt8) : Option Char :=
  if ((0xf0 ≤ a && a ≤ 0xf4 && isTail b && isTail c && isTail d) && (a ≠ 0xf0 || 0x90 ≤ b) &&
      (a ≠ 0xf4 || b ≤ 0x8f)) = true then
    some (Char.ofNat (262144 * (a.toNat - 0xf0) + 4096 * (b.toNat - 0x80) + 64 * (c.toNat - 0x80) +
      (d.toNat - 0x80)))
  else none

/-- The first sequence of some bytes: its scalar value, and how many bytes follow its first. -/
def sequence? (a : UInt8) (rest : Bytes) : Option (Char × ℕ) :=
  if a < 0x80 then some (Char.ofNat a.toNat, 0)
  else
    match rest with
    | b :: rest =>
      ((decodeTwo a b).map (·, 1)).or <|
        match rest with
        | c :: rest =>
          ((decodeThree a b c).map (·, 2)).or <|
            match rest with
            | d :: _ => (decodeFour a b c d).map (·, 3)
            | [] => none
        | [] => none
    | [] => none

/-- The loop of `decode`; there are fewer sequences than bytes. -/
def decodeWith : ℕ → Bytes → Text
  | 0, _ => []
  | _ + 1, [] => []
  | fuel + 1, a :: rest =>
    match sequence? a rest with
    | some (c, n) => .scalar c :: decodeWith fuel (rest.drop n)
    | none => escapeByte a :: decodeWith fuel rest

/-- `bytes.decode("utf-8", "surrogateescape")`. -/
def decode (bytes : Bytes) : Text := decodeWith bytes.length bytes

/-! ## Back to bytes -/

theorem length_latin1 : ∀ {text : Text} {bytes : Bytes}, latin1 text = some bytes →
    bytes.length = text.length
  | [], _, h => by
    obtain rfl := Option.some.inj h
    rfl
  | .scalar c :: rest, bytes, h => by
    rw [latin1] at h
    split at h
    · obtain ⟨rest', hrest, rfl⟩ := Option.map_eq_some_iff.mp h
      rw [List.length_cons, List.length_cons, length_latin1 hrest]
    · cases h
  | .surrogate _ :: _, _, h => by cases h

theorem length_decodeWith_le : ∀ (fuel : ℕ) (bytes : Bytes),
    (decodeWith fuel bytes).length ≤ bytes.length
  | 0, _ => Nat.zero_le _
  | _ + 1, [] => le_rfl
  | fuel + 1, a :: rest => by
    rw [decodeWith]
    split
    · next c n _ =>
      have hrest := length_decodeWith_le fuel (rest.drop n)
      rw [List.length_drop] at hrest
      rw [List.length_cons, List.length_cons]
      omega
    · exact Nat.succ_le_succ (length_decodeWith_le fuel rest)

/-- A byte outside ASCII begins a sequence of at least two. -/
theorem sequence?_tail_pos {a : UInt8} {rest : Bytes} {c : Char} {n : ℕ} (ha : ¬a < 0x80)
    (h : sequence? a rest = some (c, n)) : 0 < n ∧ n ≤ rest.length := by
  rw [sequence?.eq_def, if_neg ha] at h
  match rest, h with
  | b :: rest, h =>
    rcases Option.or_eq_some_iff.mp h with h | ⟨-, h⟩
    · obtain ⟨_, _, h⟩ := Option.map_eq_some_iff.mp h
      obtain ⟨-, rfl⟩ := Prod.mk.inj h
      simp
    · match rest, h with
      | c :: rest, h =>
        rcases Option.or_eq_some_iff.mp h with h | ⟨-, h⟩
        · obtain ⟨_, _, h⟩ := Option.map_eq_some_iff.mp h
          obtain ⟨-, rfl⟩ := Prod.mk.inj h
          simp
        · match rest, h with
          | d :: rest, h =>
            obtain ⟨_, _, h⟩ := Option.map_eq_some_iff.mp h
            obtain ⟨-, rfl⟩ := Prod.mk.inj h
            simp

theorem toNat_ofNat_byte {a : UInt8} : (Char.ofNat a.toNat).toNat = a.toNat := by
  have hvalid : a.toNat.isValidChar := Or.inl (a.toNat_lt.trans (by decide))
  rw [Char.ofNat, dif_pos hvalid]
  rfl

theorem decodeWith_ascii : ∀ {fuel : ℕ} {bytes : Bytes}, bytes.length ≤ fuel →
    (latin1 (decodeWith fuel bytes) = some bytes ↔ ∀ b ∈ bytes, b < 0x80)
  | 0, [], _ => by simp [decodeWith, latin1]
  | 0, _ :: _, h => by cases h
  | _ + 1, [], _ => by simp [decodeWith, latin1]
  | fuel + 1, a :: rest, h => by
    have hfuel : rest.length ≤ fuel := by simpa using h
    rw [List.forall_mem_cons, decodeWith]
    by_cases ha : a < 0x80
    · have hsequence : sequence? a rest = some (Char.ofNat a.toNat, 0) := if_pos ha
      have hlt : (Char.ofNat a.toNat).toNat < 0x100 := by
        rw [toNat_ofNat_byte]
        exact a.toNat_lt
      rw [hsequence]
      dsimp only
      rw [latin1, if_pos hlt, toNat_ofNat_byte, UInt8.ofNat_toNat, List.drop_zero,
        and_iff_right ha, ← decodeWith_ascii hfuel]
      constructor
      · intro hsome
        obtain ⟨rest', hrest, hcons⟩ := Option.map_eq_some_iff.mp hsome
        rw [hrest, (List.cons.inj hcons).2]
      · intro hrest
        rw [hrest, Option.map_some]
    · refine iff_of_false (fun hsome ↦ ?_) fun hascii ↦ ha hascii.1
      cases hsequence : sequence? a rest with
      | none =>
        rw [hsequence] at hsome
        cases hsome
      | some found =>
        obtain ⟨c, n⟩ := found
        rw [hsequence] at hsome
        obtain ⟨hpos, hn⟩ := sequence?_tail_pos ha hsequence
        have hlength := length_latin1 hsome
        have hshort := length_decodeWith_le fuel (rest.drop n)
        rw [List.length_drop] at hshort
        rw [List.length_cons, List.length_cons] at hlength
        omega

/-- **Only ASCII comes back.**  Bytes that were decoded as UTF-8 are what Latin-1 makes of the text if
and only if they are all ASCII. -/
theorem latin1_decode_iff (bytes : Bytes) :
    latin1 (decode bytes) = some bytes ↔ ∀ b ∈ bytes, b < 0x80 :=
  decodeWith_ascii le_rfl

end Python
