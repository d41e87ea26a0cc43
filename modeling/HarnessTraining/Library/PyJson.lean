import HarnessTraining.Library.Json
import HarnessTraining.Library.PyText

/-!
# The JSON module of Python

`json.loads` and `json.dumps`, over all texts.  A scanner keeps the digit counts of the integer
literals that it converted, also when the text turns out to be malformed after them: a literal that is
too long raises a plain `ValueError` when the scanner meets it.

* `dump` — the ASCII text of a value, in a layout;
* `loads` — the value of a text, or how the text is refused;
* `loads_digitLimit_iff` — when a literal is too long;
* `getOr`, `getItem`, `len` — walking over a value that may have any shape.
-/

set_option autoImplicit false

open Python

/-- A `float` that is no decimal. -/
inductive FloatConst where
  | nan
  | inf
  | negInf
  deriving DecidableEq

/-- A value of `json`; a finite float is the decimal it reads as. -/
inductive PyJson where
  | null
  | bool (b : Bool)
  | int (z : ℤ)
  | float (q : Decimal)
  | const (c : FloatConst)
  | str (text : Text)
  | arr (items : List PyJson)
  | obj (members : List (Text × PyJson))

namespace PyJson

def ofOption {α : Type} (f : α → PyJson) : Option α → PyJson
  | some a => f a
  | none => .null

mutual

/-- A value whose texts are strings. -/
def ofJson : Json → PyJson
  | .null => .null
  | .bool b => .bool b
  | .int z => .int z
  | .float q => .float q
  | .str s => .str (ofString s)
  | .arr items => .arr (ofJsonItems items)
  | .obj members => .obj (ofJsonMembers members)

def ofJsonItems : List Json → List PyJson
  | [] => []
  | item :: items => ofJson item :: ofJsonItems items

def ofJsonMembers : List (String × Json) → List (Text × PyJson)
  | [] => []
  | (key, value) :: members => (ofString key, ofJson value) :: ofJsonMembers members

end

/-! ## Dictionaries -/

section Members

variable {α : Type}

/-- `members[key] = value`: an old key keeps its place. -/
def setItem (key : Text) (value : α) : List (Text × α) → List (Text × α)
  | [] => [(key, value)]
  | member :: members =>
    if member.1 = key then (key, value) :: members else member :: setItem key value members

/-- `dict(members)`. -/
def dictOf (members : List (Text × α)) : List (Text × α) :=
  members.foldl (fun dict member ↦ setItem member.1 member.2 dict) []

/-- `members.get(key)`. -/
def get? (key : Text) (members : List (Text × α)) : Option α := members.lookup key

theorem get?_ofString_cons (key key' : String) (value : α) (members : List (Text × α)) :
    get? (ofString key) ((ofString key', value) :: members) =
      if key = key' then some value else get? (ofString key) members := by
  rw [get?, List.lookup_cons]
  by_cases h : key = key'
  · rw [if_pos h, h, beq_self_eq_true]
  · rw [if_neg h, beq_eq_false_iff_ne.mpr fun heq ↦ h (ofString_injective heq), get?]

end Members

/-! ## Writing -/

/-- What `json.dumps` writes between the tokens; the depth is that of the brackets around. -/
structure Layout where
  opening : ℕ → List Char
  comma : ℕ → List Char
  closing : ℕ → List Char
  colon : List Char
  space : (∀ depth, ∀ c ∈ opening depth ++ comma depth ++ closing depth, Json.isSpace c = true) ∧
    ∀ c ∈ colon, Json.isSpace c = true

/-- `separators=(",", ":")`. -/
def Layout.compact : Layout where
  opening _ := []
  comma _ := []
  closing _ := []
  colon := []
  space := by simp

/-- The default. -/
def Layout.spaced : Layout where
  opening _ := []
  comma _ := [' ']
  closing _ := []
  colon := [' ']
  space := by simp [Json.isSpace]

/-- A line of its own for every item, `n` blanks a level. -/
def Layout.indented (n : ℕ) : Layout where
  opening depth := '\n' :: List.replicate (n * depth) ' '
  comma depth := '\n' :: List.replicate (n * depth) ' '
  closing depth := '\n' :: List.replicate (n * (depth - 1)) ' '
  colon := [' ']
  space := by
    refine ⟨fun depth c hc ↦ ?_, by simp [Json.isSpace]⟩
    have : c = '\n' ∨ c = ' ' := by
      simp only [List.mem_append, List.mem_cons, List.mem_replicate] at hc
      tauto
    rcases this with rfl | rfl
    · rfl
    · rfl

def escapePoint : CodePoint → List Char
  | .scalar c => Json.escapeChar c
  | .surrogate n => Json.renderUnit (0xd800 + n)

def renderText (text : Text) : List Char := '"' :: (text.flatMap escapePoint ++ ['"'])

def FloatConst.render : FloatConst → List Char
  | .nan => ['N', 'a', 'N']
  | .inf => ['I', 'n', 'f', 'i', 'n', 'i', 't', 'y']
  | .negInf => ['-', 'I', 'n', 'f', 'i', 'n', 'i', 't', 'y']

section Render

variable (layout : Layout)

mutual

/-- A value, inside `depth` brackets. -/
def render : ℕ → PyJson → List Char
  | _, .null => ['n', 'u', 'l', 'l']
  | _, .bool true => ['t', 'r', 'u', 'e']
  | _, .bool false => ['f', 'a', 'l', 's', 'e']
  | _, .int z => Json.renderInt z
  | _, .float q => Json.renderInt q.mantissa ++ 'e' :: Json.renderInt q.exponent
  | _, .const c => FloatConst.render c
  | _, .str text => renderText text
  | _, .arr [] => ['[', ']']
  | depth, .arr (item :: items) =>
    '[' :: (layout.opening (depth + 1) ++ (render (depth + 1) item ++ renderItems (depth + 1) items))
  | _, .obj [] => ['{', '}']
  | depth, .obj ((key, value) :: members) =>
    '{' :: (layout.opening (depth + 1) ++ (renderText key ++ ':' :: (layout.colon ++
      (render (depth + 1) value ++ renderMembers (depth + 1) members))))

/-- The rest of an array. -/
def renderItems : ℕ → List PyJson → List Char
  | depth, [] => layout.closing depth ++ [']']
  | depth, item :: items =>
    ',' :: (layout.comma depth ++ (render depth item ++ renderItems depth items))

/-- The rest of an object. -/
def renderMembers : ℕ → List (Text × PyJson) → List Char
  | depth, [] => layout.closing depth ++ ['}']
  | depth, (key, value) :: members =>
    ',' :: (layout.comma depth ++ (renderText key ++ ':' :: (layout.colon ++
      (render depth value ++ renderMembers depth members))))

end

/-- The text of a value. -/
def dumps (value : PyJson) : Text := (render layout 0 value).map .scalar

end Render

/-- The limit on the digits of an integer, when it is converted from a text or to one. -/
def MAX_STR_DIGITS : ℕ := 4300

mutual

/-- The digit counts of the integers of a value. -/
def integers : PyJson → List ℕ
  | .int z => [(Json.renderNat z.natAbs).length]
  | .arr items => integersOfItems items
  | .obj members => integersOfMembers members
  | _ => []

def integersOfItems : List PyJson → List ℕ
  | [] => []
  | item :: items => integers item ++ integersOfItems items

def integersOfMembers : List (Text × PyJson) → List ℕ
  | [] => []
  | (_, value) :: members => integers value ++ integersOfMembers members

end

/-- `json.dumps`, unless it raises a `ValueError`. -/
def dump (layout : Layout) (value : PyJson) : Option Text :=
  if ∃ digits ∈ integers value, MAX_STR_DIGITS < digits then none else some (dumps layout value)

mutual

/-- What `sort_keys=True` writes: every dictionary in the order of its keys. -/
def sortKeys : PyJson → PyJson
  | .arr items => .arr (sortKeysOfItems items)
  | .obj members => .obj ((sortKeysOfMembers members).mergeSort fun member member' ↦
      decide (member.1.map CodePoint.toNat ≤ member'.1.map CodePoint.toNat))
  | value => value

def sortKeysOfItems : List PyJson → List PyJson
  | [] => []
  | item :: items => sortKeys item :: sortKeysOfItems items

def sortKeysOfMembers : List (Text × PyJson) → List (Text × PyJson)
  | [] => []
  | (key, value) :: members => (key, sortKeys value) :: sortKeysOfMembers members

end

theorem sortKeysOfMembers_eq_map : ∀ members : List (Text × PyJson),
    sortKeysOfMembers members = members.map fun member ↦ (member.1, sortKeys member.2)
  | [] => rfl
  | (_, _) :: members => congrArg (List.cons _) (sortKeysOfMembers_eq_map members)

/-! ## Reading -/

/-- A scanner: the digit counts of the integers it converted, and what it read with the text after. -/
def Scan (α : Type) := Text → List ℕ × Option (α × Text)

namespace Scan

variable {α β : Type}

/-- Some text that is read, or refused. -/
def ofOption (read : Text → Option (α × Text)) : Scan α := fun text ↦ ([], read text)

def fail : Scan α := fun _ ↦ ([], none)

def andThen (scan : Scan α) (f : α → Scan β) : Scan β := fun text ↦
  match scan text with
  | (digits, none) => (digits, none)
  | (digits, some (a, rest)) => (digits ++ (f a rest).1, (f a rest).2)

instance : Monad Scan where
  pure a := fun text ↦ ([], some (a, text))
  bind := andThen

end Scan

/-- The next code point. -/
def peek : Scan (Option CodePoint) := fun text ↦ ([], some (text.head?, text))

def isBlank : CodePoint → Bool
  | .scalar c => Json.isSpace c
  | .surrogate _ => false

/-- White space. -/
def space : Scan Unit := fun text ↦ ([], some ((), text.dropWhile isBlank))

/-- A text that begins with a word. -/
def dropWord : List Char → Text → Option Text
  | [], text => some text
  | c :: word, .scalar c' :: text => if c = c' then dropWord word text else none
  | _ :: _, _ => none

def expect (c : Char) : Scan Unit := .ofOption fun text ↦ (dropWord [c] text).map ((), ·)

/-- Four hexadecimal digits. -/
def readUnit : Text → Option (ℕ × Text)
  | .scalar a :: .scalar b :: .scalar c :: .scalar d :: rest =>
    (Json.parseUnit [a, b, c, d]).map fun unit ↦ (unit.1, rest)
  | _ => none

/-- The code point of a UTF-16 unit that stands alone. -/
def ofUnit (unit : ℕ) : CodePoint :=
  if h : 0xd800 ≤ unit ∧ unit < 0xe000 then .surrogate ⟨unit - 0xd800, by omega⟩
  else .scalar (Char.ofNat unit)

/-- The low half of a pair. -/
def readLow (text : Text) : Option (ℕ × Text) := do
  let (low, rest) ← readUnit (← dropWord ['\\', 'u'] text)
  if 0xdc00 ≤ low ∧ low < 0xe000 then some (low, rest) else none

/-- The code point after `\u`: a pair is one, and half of a pair is one too. -/
def readEscapedUnit (text : Text) : Option (CodePoint × Text) := do
  let (unit, rest) ← readUnit text
  if 0xd800 ≤ unit ∧ unit < 0xdc00 then
    match readLow rest with
    | some (low, rest) =>
      some (.scalar (Char.ofNat (0x10000 + (unit - 0xd800) * 1024 + (low - 0xdc00))), rest)
    | none => some (ofUnit unit, rest)
  else some (ofUnit unit, rest)

/-- A code point of a string body. -/
def readPoint : Text → Option (CodePoint × Text)
  | .scalar '\\' :: .scalar 'u' :: rest => readEscapedUnit rest
  | .scalar '\\' :: .scalar '/' :: rest => some (.scalar '/', rest)
  | .scalar '\\' :: .scalar letter :: rest =>
    (Json.shortEscapes.find? fun escape ↦ escape.1 = letter).map fun escape ↦ (.scalar escape.2, rest)
  | .scalar c :: rest => if c = '\\' ∨ c.toNat < 0x20 then none else some (.scalar c, rest)
  | .surrogate n :: rest => some (.surrogate n, rest)
  | [] => none

/-- The body of a string, up to its closing quote. -/
def readBody : ℕ → Text → Option (Text × Text)
  | 0, _ => none
  | fuel + 1, text =>
    if text.head? = some (.scalar '"') then some ([], text.tail)
    else do
      let (point, rest) ← readPoint text
      let (body, rest) ← readBody fuel rest
      some (point :: body, rest)

def scanString : Scan Text := .ofOption fun text ↦ do
  let rest ← dropWord ['"'] text
  readBody (rest.length + 1) rest

/-- The words that are values. -/
def words : List (List Char × PyJson) := [
  (['n', 'u', 'l', 'l'], .null), (['t', 'r', 'u', 'e'], .bool true),
  (['f', 'a', 'l', 's', 'e'], .bool false), (FloatConst.render .nan, .const .nan),
  (FloatConst.render .inf, .const .inf), (FloatConst.render .negInf, .const .negInf)]

/-- The characters that a text begins with. -/
def leading : Text → List Char
  | .scalar c :: rest => c :: leading rest
  | _ => []

/-- The digits of the integer that a text begins with. -/
def integerDigits (cs : List Char) : ℕ := ((Json.splitSign cs).2.takeWhile Json.isDigit).length

/-- A number; an integer is converted. -/
def scanNumber : Scan PyJson := fun text ↦
  let cs := leading text
  match Json.parseNumber cs with
  | some (.int z, rest) => ([integerDigits cs], some (.int z, text.drop (cs.length - rest.length)))
  | some (.float q, rest) => ([], some (.float q, text.drop (cs.length - rest.length)))
  | _ => ([], none)

/-- A word or a number. -/
def scanWord : Scan PyJson := fun text ↦
  match words.findSome? fun word ↦ (dropWord word.1 text).map (word.2, ·) with
  | some found => ([], some found)
  | none => scanNumber text

mutual

def scanValue : ℕ → Scan PyJson
  | 0 => .fail
  | fuel + 1 => do
    match ← peek with
    | some (.scalar '"') => do
      let text ← scanString
      return .str text
    | some (.scalar '[') => do
      expect '['
      space
      if (← peek) = some (.scalar ']') then
        expect ']'
        return .arr []
      else do
        let item ← scanValue fuel
        let items ← scanItems fuel
        return .arr (item :: items)
    | some (.scalar '{') => do
      expect '{'
      space
      if (← peek) = some (.scalar '}') then
        expect '}'
        return .obj []
      else do
        let member ← scanMember fuel
        let members ← scanMembers fuel
        return .obj (dictOf (member :: members))
    | _ => scanWord

/-- The rest of an array. -/
def scanItems : ℕ → Scan (List PyJson)
  | 0 => .fail
  | fuel + 1 => do
    space
    if (← peek) = some (.scalar ']') then
      expect ']'
      return []
    else do
      expect ','
      space
      let item ← scanValue fuel
      let items ← scanItems fuel
      return item :: items

def scanMember : ℕ → Scan (Text × PyJson)
  | 0 => .fail
  | fuel + 1 => do
    let key ← scanString
    space
    expect ':'
    space
    let value ← scanValue fuel
    return (key, value)

/-- The rest of an object. -/
def scanMembers : ℕ → Scan (List (Text × PyJson))
  | 0 => .fail
  | fuel + 1 => do
    space
    if (← peek) = some (.scalar '}') then
      expect '}'
      return []
    else do
      expect ','
      space
      let member ← scanMember fuel
      let members ← scanMembers fuel
      return member :: members

end

/-- A whole text. -/
def scanDocument (fuel : ℕ) : Scan PyJson := do
  space
  let value ← scanValue fuel
  space
  if (← peek) = none then return value else .fail

/-- Why `json.loads` refuses a text. -/
inductive LoadsError where
  /-- `JSONDecodeError`. -/
  | malformed
  /-- A `ValueError`: an integer literal exceeds the limit. -/
  | digitLimit
  deriving DecidableEq

/-- The digit counts of the integer literals up to the end of a text or its first syntax error. -/
def integerLiterals (text : Text) : List ℕ := (scanDocument (text.length + 1) text).1

/-- `json.loads`. -/
def loads (text : Text) : Except LoadsError PyJson :=
  if ∃ digits ∈ integerLiterals text, MAX_STR_DIGITS < digits then .error .digitLimit
  else
    match (scanDocument (text.length + 1) text).2 with
    | some (value, _) => .ok value
    | none => .error .malformed

/-! ## What can be written -/

/-- Every integer of the value is short enough to be written. -/
def Writable (value : PyJson) : Prop := ∀ digits ∈ integers value, digits ≤ MAX_STR_DIGITS

theorem dump_eq_some {layout : Layout} {value : PyJson} {text : Text} :
    dump layout value = some text ↔ Writable value ∧ dumps layout value = text := by
  have hwritable : Writable value ↔ ¬∃ digits ∈ integers value, MAX_STR_DIGITS < digits := by
    rw [Writable]
    push Not
    exact Iff.rfl
  rw [dump, hwritable]
  split
  · next h => exact iff_of_false (by rintro ⟨⟩) fun hnot ↦ hnot.1 h
  · next h => rw [Option.some_inj, and_iff_right h]

theorem dump_eq_none {layout : Layout} {value : PyJson} :
    dump layout value = none ↔ ¬Writable value := by
  rw [Option.eq_none_iff_forall_ne_some]
  exact ⟨fun h hwritable ↦ h _ (dump_eq_some.mpr ⟨hwritable, rfl⟩),
    fun h text htext ↦ h (dump_eq_some.mp htext).1⟩

theorem mem_integersOfItems {digits : ℕ} {items : List PyJson} :
    digits ∈ integersOfItems items ↔ ∃ item ∈ items, digits ∈ integers item := by
  induction items with
  | nil => exact iff_of_false (by rintro ⟨⟩) (by rintro ⟨_, ⟨⟩, _⟩)
  | cons item items ih => rw [integersOfItems, List.mem_append, ih, List.exists_mem_cons_iff]

theorem mem_integersOfMembers {digits : ℕ} {members : List (Text × PyJson)} :
    digits ∈ integersOfMembers members ↔ ∃ member ∈ members, digits ∈ integers member.2 := by
  induction members with
  | nil => exact iff_of_false (by rintro ⟨⟩) (by rintro ⟨_, ⟨⟩, _⟩)
  | cons member members ih => rw [integersOfMembers, List.mem_append, ih, List.exists_mem_cons_iff]

theorem writable_arr {items : List PyJson} :
    Writable (.arr items) ↔ ∀ item ∈ items, Writable item := by
  constructor
  · exact fun h item hitem digits hdigits ↦ h digits (mem_integersOfItems.mpr ⟨item, hitem, hdigits⟩)
  · intro h digits hdigits
    obtain ⟨item, hitem, hdigits⟩ := mem_integersOfItems.mp hdigits
    exact h item hitem digits hdigits

theorem writable_obj {members : List (Text × PyJson)} :
    Writable (.obj members) ↔ ∀ member ∈ members, Writable member.2 := by
  constructor
  · exact fun h member hmember digits hdigits ↦
      h digits (mem_integersOfMembers.mpr ⟨member, hmember, hdigits⟩)
  · intro h digits hdigits
    obtain ⟨member, hmember, hdigits⟩ := mem_integersOfMembers.mp hdigits
    exact h member hmember digits hdigits

/-- A value without integers. -/
theorem writable_nil {value : PyJson} (h : integers value = []) : Writable value := by
  rw [Writable, h]
  exact List.forall_mem_nil _

mutual

theorem mem_integers_sortKeys : ∀ (value : PyJson) (digits : ℕ),
    digits ∈ integers (sortKeys value) ↔ digits ∈ integers value
  | .arr items, digits => mem_integersOfItems_sortKeys items digits
  | .obj members, digits => by
    rw [sortKeys, integers, integers, ← mem_integersOfMembers_sortKeys members digits,
      mem_integersOfMembers, mem_integersOfMembers]
    simp only [List.mem_mergeSort]
  | .null, _ | .bool _, _ | .int _, _ | .float _, _ | .const _, _ | .str _, _ => Iff.rfl

theorem mem_integersOfItems_sortKeys : ∀ (items : List PyJson) (digits : ℕ),
    digits ∈ integersOfItems (sortKeysOfItems items) ↔ digits ∈ integersOfItems items
  | [], _ => Iff.rfl
  | item :: items, digits => by
    rw [sortKeysOfItems, integersOfItems, integersOfItems, List.mem_append, List.mem_append,
      mem_integers_sortKeys item, mem_integersOfItems_sortKeys items]

theorem mem_integersOfMembers_sortKeys : ∀ (members : List (Text × PyJson)) (digits : ℕ),
    digits ∈ integersOfMembers (sortKeysOfMembers members) ↔ digits ∈ integersOfMembers members
  | [], _ => Iff.rfl
  | (key, value) :: members, digits => by
    rw [sortKeysOfMembers, integersOfMembers, integersOfMembers, List.mem_append, List.mem_append,
      mem_integers_sortKeys value, mem_integersOfMembers_sortKeys members]

end

theorem writable_sortKeys {value : PyJson} : Writable (sortKeys value) ↔ Writable value := by
  simp only [Writable, mem_integers_sortKeys]

theorem loads_digitLimit_iff (text : Text) : loads text = .error .digitLimit ↔
    ∃ digits ∈ integerLiterals text, MAX_STR_DIGITS < digits := by
  rw [loads]
  split
  · next h => exact iff_of_true rfl h
  · next h =>
    refine iff_of_false ?_ h
    split
    · rintro ⟨⟩
    · rintro ⟨⟩

/-! ## Access -/

/-- What walking over a value may raise, with the texts of Python. -/
inductive AccessError where
  | keyError (key : String)
  | typeError (text : String)
  | attributeError (text : String)
  deriving DecidableEq

/-- `type(value).__name__`. -/
def typeName : PyJson → String
  | .null => "NoneType"
  | .bool _ => "bool"
  | .int _ => "int"
  | .float _ | .const _ => "float"
  | .str _ => "str"
  | .arr _ => "list"
  | .obj _ => "dict"

/-- `value.get(key, default)`. -/
def getOr : PyJson → String → PyJson → Except AccessError PyJson
  | .obj members, key, default => .ok ((get? (ofString key) members).getD default)
  | value, _, _ => .error (.attributeError s!"'{typeName value}' object has no attribute 'get'")

/-- `len(value)`. -/
def len : PyJson → Except AccessError ℕ
  | .str text => .ok text.length
  | .arr items => .ok items.length
  | .obj members => .ok members.length
  | value => .error (.typeError s!"object of type '{typeName value}' has no len()")

/-- `value[key]`. -/
def getItem (key : String) : PyJson → Except AccessError PyJson
  | .obj members =>
    match get? (ofString key) members with
    | some value => .ok value
    | none => .error (.keyError key)
  | .arr _ => .error (.typeError "list indices must be integers or slices, not str")
  | .str _ => .error (.typeError "string indices must be integers, not 'str'")
  | value => .error (.typeError s!"'{typeName value}' object is not subscriptable")

end PyJson
