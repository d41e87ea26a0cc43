import HarnessTraining.Library.Json
import Mathlib.Data.Set.Basic

/-!
# Addresses of IPv4

The texts of addresses and of networks, and the addresses of a network.

* `address?_dotted`, `network?_dotted` — four numbers are an address just if they are octets.
* `overlaps_iff` — two networks share an address just if the shorter prefix is one of both.
-/

set_option autoImplicit false

namespace Ipv4

open Json

/-- A number of an address; there is no leading zero. -/
def octet? (text : List Char) : Option ℕ :=
  match parseNat text with
  | some (n, []) => if n < 256 then some n else none
  | _ => none

def address? (text : List Char) : Option ℕ :=
  match text.splitOn '.' with
  | [a, b, c, d] => do
    return (((← octet? a) * 256 + (← octet? b)) * 256 + (← octet? c)) * 256 + (← octet? d)
  | _ => none

/-- The addresses that agree with `base` on the first `bits` bits. -/
structure Network where
  base : ℕ
  bits : ℕ
  bits_le : bits ≤ 32

def Network.addresses (network : Network) : Set ℕ :=
  {address | address / 2 ^ (32 - network.bits) = network.base / 2 ^ (32 - network.bits)}

theorem mem_network_addresses {network : Network} {address : ℕ} : address ∈ network.addresses ↔
    address / 2 ^ (32 - network.bits) = network.base / 2 ^ (32 - network.bits) := Iff.rfl

def network? (text : List Char) : Option Network :=
  match text.splitOn '/' with
  | [address, bits] => do
    let base ← address? address
    match parseNat bits with
    | some (n, []) => if h : n ≤ 32 then some ⟨base, n, h⟩ else none
    | _ => none
  | _ => none

/-- The addresses of the network that a text stands for, if it stands for one. -/
def addresses (text : List Char) : Set ℕ :=
  {address | ∃ network ∈ network? text, address ∈ network.addresses}

/-- The text of four numbers. -/
def dotted (a b c d : ℕ) : List Char :=
  renderNat a ++ '.' :: (renderNat b ++ '.' :: (renderNat c ++ '.' :: renderNat d))

theorem octet?_renderNat (n : ℕ) : octet? (renderNat n) = if n < 256 then some n else none := by
  have hparse : parseNat (renderNat n) = some (n, []) := by
    rw [← List.append_nil (renderNat n), parseNat_render n (by rintro c ⟨⟩)]
  rw [octet?, hparse]

theorem not_mem_renderNat {n : ℕ} {c : Char} (hc : isDigit c = false) : c ∉ renderNat n := by
  intro hmem
  rw [isDigit_of_mem_decDigits hmem] at hc
  cases hc

theorem splitOn_cons {c : Char} {before after : List Char} (h : c ∉ before) :
    (before ++ c :: after).splitOn c = before :: after.splitOn c :=
  List.splitOn_append_cons_of_forall_mem_beq_eq_false
    (fun _ hmem ↦ beq_false_of_ne (ne_of_mem_of_not_mem hmem h)) c BEq.rfl after

theorem splitOn_of_not_mem {c : Char} {text : List Char} (h : c ∉ text) : text.splitOn c = [text] :=
  List.splitOnP_eq_singleton fun _ hmem ↦ beq_false_of_ne (ne_of_mem_of_not_mem hmem h)

/-- **Four numbers are an address just if they are octets.** -/
theorem address?_dotted (a b c d : ℕ) : address? (dotted a b c d) =
    if a < 256 ∧ b < 256 ∧ c < 256 ∧ d < 256 then some (((a * 256 + b) * 256 + c) * 256 + d) else none := by
  have hdot (n : ℕ) : '.' ∉ renderNat n := not_mem_renderNat (by decide)
  rw [address?, dotted, splitOn_cons (hdot a), splitOn_cons (hdot b), splitOn_cons (hdot c),
    splitOn_of_not_mem (hdot d)]
  simp only [octet?_renderNat]
  by_cases ha : a < 256 <;> by_cases hb : b < 256 <;> by_cases hc : c < 256 <;> by_cases hd : d < 256 <;>
    simp [ha, hb, hc, hd]

theorem network?_dotted (a b c d : ℕ) {n : ℕ} (hn : n ≤ 32) :
    network? (dotted a b c d ++ '/' :: renderNat n) =
      (address? (dotted a b c d)).map fun base ↦ ⟨base, n, hn⟩ := by
  have hslash (n : ℕ) : '/' ∉ renderNat n := not_mem_renderNat (by decide)
  have haddress : '/' ∉ dotted a b c d := by simp [dotted, hslash]
  have hparse : parseNat (renderNat n) = some (n, []) := by
    rw [← List.append_nil (renderNat n), parseNat_render n (by rintro c ⟨⟩)]
  rw [network?, splitOn_cons haddress, splitOn_of_not_mem (hslash n), Option.map_eq_bind]
  dsimp only
  rw [hparse]
  simp only [dif_pos hn]
  rfl

/-- The bits of the shorter prefix agree. -/
def Network.overlaps (network network' : Network) : Bool :=
  let shift := 32 - min network.bits network'.bits
  network.base / 2 ^ shift = network'.base / 2 ^ shift

/-- What agrees on more bits agrees on fewer. -/
theorem div_pow_congr {m n k l : ℕ} (hkl : k ≤ l) (h : m / 2 ^ k = n / 2 ^ k) : m / 2 ^ l = n / 2 ^ l := by
  obtain ⟨d, rfl⟩ := Nat.exists_eq_add_of_le hkl
  rw [pow_add, ← Nat.div_div_eq_div_mul, ← Nat.div_div_eq_div_mul, h]

theorem overlaps_comm (network network' : Network) :
    network.overlaps network' = network'.overlaps network := by
  rw [Network.overlaps, Network.overlaps, min_comm]
  exact decide_eq_decide.mpr eq_comm

theorem overlaps_iff_of_le {network network' : Network} (h : network.bits ≤ network'.bits) :
    network.overlaps network' = true ↔ ∃ address ∈ network.addresses, address ∈ network'.addresses := by
  rw [Network.overlaps, min_eq_left h, decide_eq_true_iff]
  constructor
  · exact fun hprefix ↦ ⟨network'.base, mem_network_addresses.mpr hprefix.symm, rfl⟩
  · rintro ⟨address, haddress, haddress'⟩
    exact haddress.symm.trans (div_pow_congr (Nat.sub_le_sub_left h 32) haddress')

/-- **Two networks share an address just if the shorter prefix is one of both.** -/
theorem overlaps_iff {network network' : Network} :
    network.overlaps network' = true ↔ ∃ address ∈ network.addresses, address ∈ network'.addresses := by
  rcases le_total network.bits network'.bits with h | h
  · exact overlaps_iff_of_le h
  · rw [overlaps_comm, overlaps_iff_of_le h]
    exact exists_congr fun _ ↦ and_comm

end Ipv4
