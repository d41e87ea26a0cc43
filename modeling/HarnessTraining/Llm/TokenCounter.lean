import Mathlib.Data.Int.Notation
import Mathlib.Data.Nat.Notation

/-!
# Token accounting

`src/llm/token_counter.py`: a tokenizer counts a text and clips it at the end of a token.
-/

set_option autoImplicit false

namespace HarnessTraining

/-- `"\n...[truncated]"`. -/
def TRUNCATION_MARKER : String := "\n...[truncated]"

/-- `tokenizers.Encoding`: the tokens of a text, and the part of the text that each stands for. -/
structure Encoding where
  ids : List ℕ
  offsets : List (ℕ × ℕ)
  aligned : offsets.length = ids.length

/-- A counter is its tokenizer; `encode` adds no special tokens. -/
structure HfTokenCounter where
  encode : String → Encoding

/-- `xs[i]`: a negative index counts from the end. -/
def index? {α : Type} (xs : List α) (i : ℤ) : Option α :=
  if 0 ≤ i then xs[i.toNat]?
  else if -xs.length ≤ i then xs[(xs.length + i).toNat]?
  else none

/-- `text[:n]`. -/
def firstChars (text : String) (n : ℕ) : String := String.ofList (text.toList.take n)

namespace HfTokenCounter

variable (counter : HfTokenCounter)

def count (text : String) : ℕ := (counter.encode text).ids.length

/-- `truncate`: what is kept ends with a token, and makes room for the marker. -/
def truncate (text : String) (maxTokens : ℕ) : Except String String :=
  let encoding := counter.encode text
  if encoding.ids.length ≤ maxTokens then return text
  else
    let keep : ℤ := maxTokens - counter.count TRUNCATION_MARKER
    match index? encoding.offsets (keep - 1) with
    | none => throw "IndexError: list index out of range"
    | some offset => return firstChars text offset.2 ++ TRUNCATION_MARKER

theorem exists_index? {α : Type} {xs : List α} {i : ℤ} (hlower : -xs.length ≤ i)
    (hupper : i < xs.length) : ∃ x, index? xs i = some x := by
  rw [index?]
  split
  · have hlt : i.toNat < xs.length := by omega
    exact ⟨xs[i.toNat], List.getElem?_eq_getElem hlt⟩
  · have hlt : (xs.length + i).toNat < xs.length := by omega
    exact ⟨xs[(xs.length + i).toNat], List.getElem?_eq_getElem hlt⟩

/-- A text is clipped whenever the marker fits. -/
theorem exists_truncate {maxTokens : ℕ} (hmarker : counter.count TRUNCATION_MARKER ≤ maxTokens)
    (text : String) : ∃ clipped, counter.truncate text maxTokens = .ok clipped := by
  rw [truncate]
  dsimp only
  split
  · exact ⟨text, rfl⟩
  · next hlong =>
    have haligned := (counter.encode text).aligned
    have hindex : ∃ offset, index? (counter.encode text).offsets
        ((maxTokens : ℤ) - counter.count TRUNCATION_MARKER - 1) = some offset :=
      exists_index? (by omega) (by omega)
    obtain ⟨offset, hoffset⟩ := hindex
    rw [hoffset]
    exact ⟨_, rfl⟩

end HfTokenCounter

/-- `resolve_token_counter`; the hub answers a name with its tokenizer, or that there is none. -/
def resolveTokenCounter (hub : String → Except String (Option HfTokenCounter))
    (tokenizerName : Option String) (modelName : String) : Except String (Option HfTokenCounter) :=
  match tokenizerName with
  | none => if '/' ∈ modelName.toList then hub modelName else return none
  | some name => do
    match ← hub name with
    | none => throw ("RepositoryNotFoundError: " ++ name)
    | some counter => return some counter

/-- A tokenizer of one token a character. -/
def characterCounter : HfTokenCounter where
  encode text := {
    ids := text.toList.map Char.toNat
    offsets := (List.range text.toList.length).map fun i ↦ (i, i + 1)
    aligned := by simp }

theorem count_characterCounter (text : String) : characterCounter.count text = text.length := by
  rw [HfTokenCounter.count, characterCounter, List.length_map, String.length_toList]

end HarnessTraining
