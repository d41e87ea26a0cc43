import Mathlib.Data.List.Basic
import Mathlib.Data.Nat.Notation

/-!
# Backtracking regular expressions

Regular expressions as a scripting language has them: ordered alternatives, greedy repetition,
groups, and assertions that look at the text around the match.  A backtracking matcher tries its
choices in order and takes the first that lets the rest of the expression match, so `run` lists
*all* ways to match from a position, best first; the match is the head of the list.

* `sub` — replace every match, left to right.
* `advances_of_mem_run` — a match ends further on in the same text, and captures parts of it.
* `mem_sub` — a replaced text has no characters but those of the text and of the template.
* `LineSafe`, `sub_join` — an expression none of whose parts can see a line break rewrites a text
  line by line.
-/

set_option autoImplicit false

/-- Regular expressions over classes of characters. -/
inductive Regex where
  | empty
  | char (p : Char → Bool)
  | seq (r s : Regex)
  | alt (r s : Regex)
  /-- Greedy repetition, at least `min` and at most `max` times. -/
  | rep (min : ℕ) (max : Option ℕ) (r : Regex)
  | group (index : ℕ) (r : Regex)
  /-- `\b`, for the given word characters. -/
  | boundary (word : Char → Bool)
  /-- `^` and `$` of multi-line expressions, and `^` of others. -/
  | lineStart
  | lineEnd
  | textStart
  /-- A look behind, of fixed width: the classes of the characters before, nearest first. -/
  | behind (positive : Bool) (classes : List (Char → Bool))
  | ahead (positive : Bool) (r : Regex)

namespace Regex

/-- A position in a text, between what is `before` it (nearest first) and what comes `after`, with
the groups captured so far (last first). -/
structure Pos where
  before : List Char
  after : List Char
  groups : List (ℕ × List Char) := []

/-- Whether the characters before a position are of these classes. -/
def precededBy : List (Char → Bool) → List Char → Bool
  | [], _ => true
  | _ :: _, [] => false
  | p :: classes, c :: before => p c && precededBy classes before

/-- `n` steps. -/
def exactly (step : Pos → List Pos) : ℕ → Pos → List Pos
  | 0, p => [p]
  | n + 1, p => (step p).flatMap (exactly step n)

/-- At most `n` steps, as many as possible first; a step that consumes nothing is not repeated. -/
def greedy (step : Pos → List Pos) : ℕ → Pos → List Pos
  | 0, p => [p]
  | n + 1, p =>
    ((step p).filter fun q ↦ q.after.length < p.after.length).flatMap (greedy step n) ++ [p]

/-- The ends of all matches that begin at a position, in the order a backtracking matcher finds
them. -/
def run : Regex → Pos → List Pos
  | .empty, p => [p]
  | .char c, p =>
    match p.after with
    | [] => []
    | x :: rest => if c x then [⟨x :: p.before, rest, p.groups⟩] else []
  | .seq r s, p => (run r p).flatMap (run s)
  | .alt r s, p => run r p ++ run s p
  | .rep min max r, p => (exactly (run r) min p).flatMap fun q ↦
      greedy (run r) (match max with | some max => max - min | none => q.after.length) q
  | .group index r, p => (run r p).map fun q ↦
      { q with groups := (index, p.after.take (p.after.length - q.after.length)) :: q.groups }
  | .boundary word, p => if p.before.head?.any word ≠ p.after.head?.any word then [p] else []
  | .lineStart, p => if p.before.head?.all (· = '\n') then [p] else []
  | .lineEnd, p => if p.after.head?.all (· = '\n') then [p] else []
  | .textStart, p => if p.before = [] then [p] else []
  | .behind positive classes, p => if precededBy classes p.before = positive then [p] else []
  | .ahead positive r, p => if (run r p).isEmpty ≠ positive then [p] else []

/-- The match at a position. -/
def matchAt (r : Regex) (before after : List Char) : Option Pos := (r.run ⟨before, after, []⟩).head?

/-- Whether the whole text matches. -/
def fullmatch (r : Regex) (text : List Char) : Option Pos :=
  (r.run ⟨[], text, []⟩).find? fun q ↦ q.after = []

/-- Whether there is a match anywhere. -/
def searchFrom (r : Regex) : List Char → List Char → Bool
  | before, [] => (r.matchAt before []).isSome
  | before, c :: rest => (r.matchAt before (c :: rest)).isSome || searchFrom r (c :: before) rest

def search (r : Regex) (text : List Char) : Bool := r.searchFrom [] text

/-! ## Replacing -/

/-- One piece of a replacement. -/
inductive Piece where
  | lit (text : String)
  | ref (index : ℕ)

abbrev Template := List Piece

/-- A group that took no part in the match is replaced by nothing. -/
def Pos.groupText (q : Pos) (index : ℕ) : List Char := (q.groups.lookup index).getD []

def Piece.expand (q : Pos) : Piece → List Char
  | .lit text => text.toList
  | .ref index => q.groupText index

def expand (template : Template) (q : Pos) : List Char := template.flatMap (Piece.expand q)

/-- Replace the matches of the rest of a text, by a function of the match, the first `skip`
characters of the rest being the remainder of the last match. -/
def subFrom (r : Regex) (repl : Pos → List Char) : ℕ → List Char → List Char → List Char
  | _ + 1, _, [] => []
  | skip + 1, before, c :: rest => subFrom r repl skip (c :: before) rest
  | 0, before, [] =>
    match r.matchAt before [] with
    | none => []
    | some q => repl q
  | 0, before, c :: rest =>
    match r.matchAt before (c :: rest) with
    | none => c :: subFrom r repl 0 (c :: before) rest
    | some q =>
      match rest.length + 1 - q.after.length with
      | 0 => repl q ++ c :: subFrom r repl 0 (c :: before) rest
      | consumed + 1 => repl q ++ subFrom r repl consumed (c :: before) rest

def subWith (r : Regex) (repl : Pos → List Char) (text : List Char) : List Char :=
  r.subFrom repl 0 [] text

def sub (r : Regex) (template : Template) (text : List Char) : List Char :=
  r.subWith (expand template) text

/-! ## Common expressions -/

/-- A text, literally. -/
def lit (text : String) : Regex := text.toList.foldr (fun c r ↦ .seq (.char (· = c)) r) .empty

def star (r : Regex) : Regex := .rep 0 none r

def plus (r : Regex) : Regex := .rep 1 none r

def opt (r : Regex) : Regex := .rep 0 (some 1) r

def times (n : ℕ) (r : Regex) : Regex := .rep n (some n) r

/-- One expression after the other. -/
def cat (rs : List Regex) : Regex := rs.foldr .seq .empty

/-- The first alternative that lets the rest match. -/
def oneOf : List Regex → Regex
  | [] => .char fun _ ↦ false
  | [r] => r
  | r :: rs => .alt r (oneOf rs)

/-! ## Where a match can end -/

/-- `q` is a later position in the text, and the groups captured on the way are made of what was
ahead. -/
structure Advances (p q : Pos) : Prop where
  text : ∃ consumed, p.after = consumed ++ q.after ∧ q.before = consumed.reverse ++ p.before
  groups : ∀ g ∈ q.groups, g ∈ p.groups ∨ g.2 ⊆ p.after

section Advances

variable {p q : Pos} {r : Regex}

theorem Advances.refl (p : Pos) : Advances p p := ⟨⟨[], rfl, rfl⟩, fun _ ↦ Or.inl⟩

theorem Advances.subset (h : Advances p q) : q.after ⊆ p.after := by
  obtain ⟨consumed, htext, -⟩ := h.text
  exact htext ▸ List.subset_append_right ..

theorem Advances.length_le (h : Advances p q) : q.after.length ≤ p.after.length := by
  obtain ⟨consumed, htext, -⟩ := h.text
  rw [htext, List.length_append]
  exact Nat.le_add_left ..

theorem Advances.trans {o : Pos} (h : Advances o p) (h' : Advances p q) : Advances o q := by
  obtain ⟨⟨consumed, htext, hbefore⟩, hgroups⟩ := h
  obtain ⟨⟨consumed', htext', hbefore'⟩, hgroups'⟩ := h'
  refine ⟨⟨consumed ++ consumed', ?_, ?_⟩, fun g hg ↦ ?_⟩
  · rw [htext, htext', List.append_assoc]
  · rw [hbefore', hbefore, List.reverse_append, List.append_assoc]
  · rcases hgroups' g hg with hg | hg
    · exact hgroups g hg
    · exact Or.inr (List.Subset.trans hg (htext ▸ List.subset_append_right ..))

theorem advances_of_mem_exactly {step : Pos → List Pos} (hstep : ∀ p, ∀ q ∈ step p, Advances p q)
    {n : ℕ} (h : q ∈ exactly step n p) : Advances p q := by
  induction n generalizing p with
  | zero => exact List.mem_singleton.mp h ▸ .refl p
  | succ n ih =>
    obtain ⟨o, ho, h⟩ := List.mem_flatMap.mp h
    exact (hstep p o ho).trans (ih h)

theorem advances_of_mem_greedy {step : Pos → List Pos} (hstep : ∀ p, ∀ q ∈ step p, Advances p q)
    {n : ℕ} (h : q ∈ greedy step n p) : Advances p q := by
  induction n generalizing p with
  | zero => exact List.mem_singleton.mp h ▸ .refl p
  | succ n ih =>
    rcases List.mem_append.mp h with h | h
    · obtain ⟨o, ho, h⟩ := List.mem_flatMap.mp h
      exact (hstep p o (List.mem_of_mem_filter ho)).trans (ih h)
    · exact List.mem_singleton.mp h ▸ .refl p

theorem advances_of_mem_ite {c : Prop} [Decidable c] (h : q ∈ if c then [p] else []) :
    Advances p q := by
  split at h
  · exact List.mem_singleton.mp h ▸ .refl p
  · cases h

/-- A match ends further on in the same text. -/
theorem advances_of_mem_run (h : q ∈ r.run p) : Advances p q := by
  induction r generalizing p q with
  | empty => exact List.mem_singleton.mp h ▸ .refl p
  | char c =>
    rw [run] at h
    split at h
    · cases h
    · rename_i x rest hafter
      split at h
      · obtain rfl := List.mem_singleton.mp h
        exact ⟨⟨[x], hafter, rfl⟩, fun _ ↦ Or.inl⟩
      · cases h
  | seq r s ihr ihs =>
    obtain ⟨o, ho, h⟩ := List.mem_flatMap.mp h
    exact (ihr ho).trans (ihs h)
  | alt r s ihr ihs => exact (List.mem_append.mp h).elim ihr ihs
  | rep min max r ih =>
    obtain ⟨o, ho, h⟩ := List.mem_flatMap.mp h
    exact (advances_of_mem_exactly (fun _ _ ↦ ih) ho).trans
      (advances_of_mem_greedy (fun _ _ ↦ ih) h)
  | group index r ih =>
    obtain ⟨o, ho, rfl⟩ := List.mem_map.mp h
    obtain ⟨htext, hgroups⟩ := ih ho
    refine ⟨htext, fun g hg ↦ ?_⟩
    rcases List.mem_cons.mp hg with rfl | hg
    · exact Or.inr (List.take_subset ..)
    · exact hgroups g hg
  | boundary word => exact advances_of_mem_ite h
  | lineStart => exact advances_of_mem_ite h
  | lineEnd => exact advances_of_mem_ite h
  | textStart => exact advances_of_mem_ite h
  | behind positive classes => exact advances_of_mem_ite h
  | ahead positive r _ => exact advances_of_mem_ite h

theorem advances_of_matchAt {before after : List Char} (h : r.matchAt before after = some q) :
    Advances ⟨before, after, []⟩ q :=
  advances_of_mem_run (List.mem_of_head? h)

theorem advances_of_fullmatch {text : List Char} (h : r.fullmatch text = some q) :
    Advances ⟨[], text, []⟩ q :=
  advances_of_mem_run (List.mem_of_find?_eq_some h)

end Advances

/-! ## What a replacement is made of -/

section Mem

variable {r : Regex} {c : Char}

theorem mem_subFrom {repl : Pos → List Char} {skip : ℕ} {before after : List Char}
    (h : c ∈ r.subFrom repl skip before after) :
    c ∈ after ∨ ∃ before' after' q, after' ⊆ after ∧ r.matchAt before' after' = some q ∧
      c ∈ repl q := by
  fun_induction subFrom with
  | case1 => cases h
  | case2 skip before x rest ih =>
    exact (ih h).imp (List.mem_cons_of_mem x) fun ⟨b, a, q, ha, hq⟩ ↦
      ⟨b, a, q, List.subset_cons_of_subset x ha, hq⟩
  | case3 => cases h
  | case4 before q hq => exact Or.inr ⟨_, _, q, List.Subset.refl _, hq, h⟩
  | case5 before x rest hnone ih =>
    rcases List.mem_cons.mp h with rfl | h
    · exact Or.inl (List.mem_cons_self ..)
    · exact (ih h).imp (List.mem_cons_of_mem x) fun ⟨b, a, q, ha, hq⟩ ↦
        ⟨b, a, q, List.subset_cons_of_subset x ha, hq⟩
  | case6 before x rest q hq hzero ih =>
    rcases List.mem_append.mp h with h | h
    · exact Or.inr ⟨_, _, q, List.Subset.refl _, hq, h⟩
    · rcases List.mem_cons.mp h with rfl | h
      · exact Or.inl (List.mem_cons_self ..)
      · exact (ih h).imp (List.mem_cons_of_mem x) fun ⟨b, a, q, ha, hq⟩ ↦
          ⟨b, a, q, List.subset_cons_of_subset x ha, hq⟩
  | case7 before x rest q hq consumed hconsumed ih =>
    rcases List.mem_append.mp h with h | h
    · exact Or.inr ⟨_, _, q, List.Subset.refl _, hq, h⟩
    · exact (ih h).imp (List.mem_cons_of_mem x) fun ⟨b, a, q, ha, hq⟩ ↦
        ⟨b, a, q, List.subset_cons_of_subset x ha, hq⟩

/-- What a match captured is part of the text. -/
theorem Advances.groupText_subset {before after : List Char} {q : Pos} {index : ℕ}
    (h : Advances ⟨before, after, []⟩ q) : q.groupText index ⊆ after := by
  intro c hc
  rw [Pos.groupText] at hc
  cases hlookup : q.groups.lookup index with
  | none => simp [hlookup] at hc
  | some text =>
    rw [hlookup, Option.getD_some] at hc
    have hmem : (index, text) ∈ q.groups := by
      obtain ⟨l, l', heq, -⟩ := List.lookup_eq_some_iff.mp hlookup
      simp [heq]
    rcases h.groups _ hmem with hg | hg
    · cases hg
    · exact hg hc

/-- A replaced text has no characters but those of the text and of the template. -/
theorem mem_sub {template : Template} {text : List Char} (h : c ∈ r.sub template text) :
    c ∈ text ∨ ∃ t, Piece.lit t ∈ template ∧ c ∈ t.toList := by
  rcases mem_subFrom h with h | ⟨before, after, q, hafter, hq, hc⟩
  · exact Or.inl h
  · obtain ⟨piece, hpiece, hc⟩ := List.mem_flatMap.mp hc
    cases piece with
    | lit t => exact Or.inr ⟨t, hpiece, hc⟩
    | ref index => exact Or.inl (hafter ((advances_of_matchAt hq).groupText_subset hc))

end Mem

/-! ## Line by line -/

/-- No part of the expression can match or see a line break. -/
def LineSafe : Regex → Prop
  | .empty => True
  | .char c => c '\n' = false
  | .seq r s => LineSafe r ∧ LineSafe s
  | .alt r s => LineSafe r ∧ LineSafe s
  | .rep _ _ r => LineSafe r
  | .group _ r => LineSafe r
  | .boundary word => word '\n' = false
  | .lineStart => True
  | .lineEnd => True
  | .textStart => False
  | .behind _ classes => ∀ c ∈ classes, c '\n' = false
  | .ahead _ r => LineSafe r

instance decidableLineSafe : (r : Regex) → Decidable r.LineSafe
  | .empty => .isTrue trivial
  | .char c => inferInstanceAs (Decidable (c '\n' = false))
  | .seq r s =>
    have := decidableLineSafe r
    have := decidableLineSafe s
    inferInstanceAs (Decidable (_ ∧ _))
  | .alt r s =>
    have := decidableLineSafe r
    have := decidableLineSafe s
    inferInstanceAs (Decidable (_ ∧ _))
  | .rep _ _ r => decidableLineSafe r
  | .group _ r => decidableLineSafe r
  | .boundary word => inferInstanceAs (Decidable (word '\n' = false))
  | .lineStart => .isTrue trivial
  | .lineEnd => .isTrue trivial
  | .textStart => .isFalse id
  | .behind _ classes => inferInstanceAs (Decidable (∀ c ∈ classes, c '\n' = false))
  | .ahead _ r => decidableLineSafe r

section LineSafe

variable {r s : Regex} {rs : List Regex}

@[simp] theorem lineSafe_empty : LineSafe .empty := trivial

@[simp] theorem lineSafe_char {c : Char → Bool} : LineSafe (.char c) ↔ c '\n' = false := Iff.rfl

@[simp] theorem lineSafe_seq : LineSafe (.seq r s) ↔ r.LineSafe ∧ s.LineSafe := Iff.rfl

@[simp] theorem lineSafe_alt : LineSafe (.alt r s) ↔ r.LineSafe ∧ s.LineSafe := Iff.rfl

@[simp] theorem lineSafe_rep {min : ℕ} {max : Option ℕ} : LineSafe (.rep min max r) ↔ r.LineSafe :=
  Iff.rfl

@[simp] theorem lineSafe_group {index : ℕ} : LineSafe (.group index r) ↔ r.LineSafe := Iff.rfl

@[simp] theorem lineSafe_boundary {word : Char → Bool} :
    LineSafe (.boundary word) ↔ word '\n' = false := Iff.rfl

@[simp] theorem lineSafe_lineStart : LineSafe .lineStart := trivial

@[simp] theorem lineSafe_lineEnd : LineSafe .lineEnd := trivial

@[simp] theorem lineSafe_behind {positive : Bool} {classes : List (Char → Bool)} :
    LineSafe (.behind positive classes) ↔ ∀ c ∈ classes, c '\n' = false := Iff.rfl

@[simp] theorem lineSafe_ahead {positive : Bool} : LineSafe (.ahead positive r) ↔ r.LineSafe :=
  Iff.rfl

@[simp] theorem lineSafe_star : LineSafe (star r) ↔ r.LineSafe := Iff.rfl

@[simp] theorem lineSafe_plus : LineSafe (plus r) ↔ r.LineSafe := Iff.rfl

@[simp] theorem lineSafe_opt : LineSafe (opt r) ↔ r.LineSafe := Iff.rfl

@[simp] theorem lineSafe_times {n : ℕ} : LineSafe (times n r) ↔ r.LineSafe := Iff.rfl

@[simp] theorem lineSafe_cat : LineSafe (cat rs) ↔ ∀ r ∈ rs, r.LineSafe := by
  induction rs with
  | nil => simp [cat]
  | cons r rs ih =>
    rw [List.forall_mem_cons, ← ih]
    exact Iff.rfl

@[simp] theorem lineSafe_oneOf : LineSafe (oneOf rs) ↔ ∀ r ∈ rs, r.LineSafe := by
  induction rs with
  | nil => simp [oneOf]
  | cons r rs ih =>
    cases rs with
    | nil => simp [oneOf]
    | cons r' rs =>
      rw [List.forall_mem_cons, ← ih]
      exact Iff.rfl

@[simp] theorem lineSafe_lit {text : String} : LineSafe (lit text) ↔ '\n' ∉ text.toList := by
  rw [lit]
  induction text.toList with
  | nil => simp
  | cons c chars ih =>
    rw [List.foldr_cons, lineSafe_seq, ih, lineSafe_char, List.mem_cons, not_or]
    simp

end LineSafe

/-- The text on one side of a line: nothing, or a line break and more. -/
def Edge (text : List Char) : Prop := ∀ c ∈ text.head?, c = '\n'

theorem edge_nil : Edge [] := by simp [Edge]

theorem edge_cons (text : List Char) : Edge ('\n' :: text) := by simp [Edge]

/-- A position in a line, as a position in a text around the line. -/
def Pos.within (pre post : List Char) (p : Pos) : Pos :=
  ⟨p.before ++ pre, p.after ++ post, p.groups⟩

section Within

variable {pre post : List Char} {step : Pos → List Pos} {p : Pos} {r : Regex}

theorem Edge.any_head? {text text' : List Char} (h : Edge text') {c : Char → Bool}
    (hc : c '\n' = false) : (text ++ text').head?.any c = text.head?.any c := by
  cases text with
  | nil =>
    cases text' with
    | nil => rfl
    | cons x rest =>
      have hx : x = '\n' := h x rfl
      simp [hx, hc]
  | cons x rest => rfl

theorem Edge.all_head? {text text' : List Char} (h : Edge text') :
    (text ++ text').head?.all (· = '\n') = text.head?.all (· = '\n') := by
  cases text with
  | nil =>
    cases text' with
    | nil => rfl
    | cons x rest =>
      have hx : x = '\n' := h x rfl
      simp [hx]
  | cons x rest => rfl

theorem Edge.precededBy {before : List Char} (h : Edge pre) {classes : List (Char → Bool)}
    (hclasses : ∀ c ∈ classes, c '\n' = false) :
    precededBy classes (before ++ pre) = precededBy classes before := by
  induction classes generalizing before with
  | nil => cases before <;> cases pre <;> rfl
  | cons c classes ih =>
    rw [List.forall_mem_cons] at hclasses
    cases before with
    | nil =>
      cases pre with
      | nil => rfl
      | cons x rest =>
        have hx : x = '\n' := h x rfl
        simp [Regex.precededBy, hx, hclasses.1]
    | cons x before => simp [Regex.precededBy, ih hclasses.2]

theorem exactly_within (hstep : ∀ p, step (p.within pre post) = (step p).map (Pos.within pre post))
    (n : ℕ) (p : Pos) :
    exactly step n (p.within pre post) = (exactly step n p).map (Pos.within pre post) := by
  induction n generalizing p with
  | zero => rfl
  | succ n ih => simp only [exactly, hstep, List.flatMap_map, List.map_flatMap, ih]

theorem greedy_within (hstep : ∀ p, step (p.within pre post) = (step p).map (Pos.within pre post))
    (n : ℕ) (p : Pos) :
    greedy step n (p.within pre post) = (greedy step n p).map (Pos.within pre post) := by
  induction n generalizing p with
  | zero => rfl
  | succ n ih =>
    have hshorter : (fun q : Pos ↦ decide (q.after.length < (p.within pre post).after.length)) ∘
        Pos.within pre post = fun q ↦ decide (q.after.length < p.after.length) := by
      funext q
      simp [Pos.within]
    simp only [greedy, hstep, List.filter_map, hshorter, List.flatMap_map, List.map_append,
      List.map_flatMap, List.map_cons, List.map_nil, ih]

/-- Repeating more often than there are characters changes nothing. -/
theorem greedy_eq_of_le {n m : ℕ} (hn : p.after.length ≤ n) (hm : p.after.length ≤ m) :
    greedy step n p = greedy step m p := by
  induction n generalizing m p with
  | zero =>
    have hzero : p.after.length = 0 := Nat.le_zero.mp hn
    cases m with
    | zero => rfl
    | succ m => simp [greedy, hzero]
  | succ n ih =>
    cases m with
    | zero => simp [greedy, Nat.le_zero.mp hm]
    | succ m =>
      rw [greedy, greedy]
      congr 1
      refine List.flatMap_congr fun q hq ↦ ?_
      have hlt : q.after.length < p.after.length := of_decide_eq_true (List.mem_filter.mp hq).2
      exact ih (by omega) (by omega)

/-- **A safe expression sees one line.** -/
theorem run_within (hsafe : r.LineSafe) (hpre : Edge pre) (hpost : Edge post) (p : Pos) :
    r.run (p.within pre post) = (r.run p).map (Pos.within pre post) := by
  induction r generalizing p with
  | empty => rfl
  | char c =>
    obtain ⟨before, after, groups⟩ := p
    cases after with
    | nil =>
      cases post with
      | nil => rfl
      | cons x rest =>
        obtain rfl : x = '\n' := hpost x rfl
        have hc : c '\n' = false := hsafe
        simp [run, Pos.within, hc]
    | cons x rest =>
      simp only [run, Pos.within, List.cons_append]
      split <;> rfl
  | seq r s ihr ihs =>
    simp only [run, ihr hsafe.1, List.flatMap_map, List.map_flatMap, ihs hsafe.2]
  | alt r s ihr ihs => simp only [run, ihr hsafe.1, ihs hsafe.2, List.map_append]
  | rep min max r ih =>
    simp only [run, exactly_within (ih hsafe), List.flatMap_map, List.map_flatMap]
    refine List.flatMap_congr fun q _ ↦ ?_
    cases max with
    | some max => exact greedy_within (ih hsafe) _ q
    | none =>
      rw [greedy_within (ih hsafe)]
      congr 1
      exact greedy_eq_of_le (by simp [Pos.within]) (Nat.le_refl _)
  | group index r ih =>
    simp only [run, ih hsafe, List.map_map]
    refine List.map_congr_left fun q hq ↦ ?_
    have hle := (advances_of_mem_run hq).length_le
    have htake : (p.after ++ post).take ((p.after ++ post).length - (q.after ++ post).length) =
        p.after.take (p.after.length - q.after.length) := by
      rw [List.length_append, List.length_append, Nat.add_sub_add_right,
        List.take_append_of_le_length (Nat.sub_le ..)]
    simp only [Function.comp, Pos.within, htake]
  | boundary word =>
    have hword : word '\n' = false := hsafe
    simp only [run, Pos.within, hpre.any_head? hword, hpost.any_head? hword]
    split <;> rfl
  | lineStart =>
    simp only [run, Pos.within, hpre.all_head?]
    split <;> rfl
  | lineEnd =>
    simp only [run, Pos.within, hpost.all_head?]
    split <;> rfl
  | textStart => exact hsafe.elim
  | behind positive classes =>
    simp only [run, Pos.within, hpre.precededBy hsafe]
    split <;> rfl
  | ahead positive r ih =>
    simp only [run, ih hsafe, List.isEmpty_map]
    split <;> rfl

theorem matchAt_within (hsafe : r.LineSafe) (hpre : Edge pre) (hpost : Edge post)
    (before after : List Char) : r.matchAt (before ++ pre) (after ++ post) =
      (r.matchAt before after).map (Pos.within pre post) := by
  rw [matchAt, matchAt, ← List.head?_map]
  exact congrArg List.head? (run_within hsafe hpre hpost ⟨before, after, []⟩)

/-- Replacing in what follows a line. -/
def subNext (r : Regex) (repl : Pos → List Char) (before : List Char) : List Char → List Char
  | [] => []
  | c :: rest => c :: r.subFrom repl 0 (c :: before) rest

/-- Replacing in the rest of a line, as part of a text: the line is rewritten as it would be
alone. -/
theorem subFrom_within {repl : Pos → List Char} (hsafe : r.LineSafe)
    (hrepl : ∀ q pre post, repl (Pos.within pre post q) = repl q) (hpre : Edge pre)
    (hpost : Edge post) (before : List Char) (skip : ℕ) {after : List Char}
    (hskip : skip ≤ after.length) :
    ∃ before', r.subFrom repl skip (before ++ pre) (after ++ post) =
      r.subFrom repl skip before after ++ r.subNext repl before' post := by
  induction after generalizing before skip with
  | nil =>
    obtain rfl : skip = 0 := Nat.le_zero.mp hskip
    have hmatch := matchAt_within hsafe hpre hpost before []
    rw [List.nil_append] at hmatch ⊢
    refine ⟨before ++ pre, ?_⟩
    cases post with
    | nil =>
      rw [subFrom, subFrom, hmatch, subNext]
      cases r.matchAt before [] with
      | none => rfl
      | some q => simp [hrepl]
    | cons x rest =>
      rw [subFrom, subFrom, hmatch, subNext]
      cases hq : r.matchAt before [] with
      | none => rfl
      | some q =>
        have hlen := (advances_of_matchAt hq).length_le
        have hzero : rest.length + 1 - (Pos.within pre (x :: rest) q).after.length = 0 := by
          simp [Pos.within]
        simp [hrepl, hzero]
  | cons x after ih =>
    cases skip with
    | succ skip => exact ih (x :: before) skip (Nat.le_of_succ_le_succ hskip)
    | zero =>
      have hmatch := matchAt_within hsafe hpre hpost before (x :: after)
      rw [List.cons_append] at hmatch ⊢
      rw [subFrom, subFrom, hmatch]
      obtain ⟨before', hnext⟩ := ih (x :: before) 0 (Nat.zero_le _)
      rw [List.cons_append] at hnext
      cases hq : r.matchAt before (x :: after) with
      | none => exact ⟨before', by simp [hnext]⟩
      | some q =>
        have hlen := (advances_of_matchAt hq).length_le
        have hconsumed : (after ++ post).length + 1 - (Pos.within pre post q).after.length =
            after.length + 1 - q.after.length := by
          simp only [Pos.within, List.length_append]
          omega
        simp only [Option.map_some, hrepl, hconsumed]
        cases hn : after.length + 1 - q.after.length with
        | zero => exact ⟨before', by simp [hnext]⟩
        | succ consumed =>
          obtain ⟨before', hnext⟩ := ih (x :: before) consumed (by omega)
          rw [List.cons_append] at hnext
          exact ⟨before', by simp [hnext]⟩

end Within

/-- The lines of a text, put together. -/
def joinLines (lines : List (List Char)) : List Char := ['\n'].intercalate lines

theorem joinLines_nil : joinLines [] = [] := rfl

theorem joinLines_singleton (line : List Char) : joinLines [line] = line :=
  List.intercalate_singleton

theorem joinLines_cons_cons (line line' : List Char) (lines : List (List Char)) :
    joinLines (line :: line' :: lines) = line ++ '\n' :: joinLines (line' :: lines) := by
  rw [joinLines, List.intercalate_cons_cons, List.append_assoc]
  rfl

/-- **Line by line.**  A safe expression rewrites a text line by line. -/
theorem subWith_joinLines {r : Regex} {repl : Pos → List Char} (hsafe : r.LineSafe)
    (hrepl : ∀ q pre post, repl (Pos.within pre post q) = repl q) {lines : List (List Char)}
    (hlines : lines ≠ []) :
    r.subWith repl (joinLines lines) = joinLines (lines.map (r.subWith repl)) := by
  have hafresh : ∀ line lines pre, Edge pre → r.subFrom repl 0 pre (joinLines (line :: lines)) =
      joinLines ((line :: lines).map (r.subWith repl)) := by
    intro line lines
    induction lines generalizing line with
    | nil =>
      intro pre hpre
      obtain ⟨before', h⟩ := subFrom_within hsafe hrepl hpre edge_nil [] 0
        (Nat.zero_le line.length)
      simpa [joinLines_singleton, subNext, subWith] using h
    | cons line' lines ih =>
      intro pre hpre
      obtain ⟨before', h⟩ := subFrom_within hsafe hrepl hpre (edge_cons (joinLines (line' :: lines)))
        [] 0 (Nat.zero_le line.length)
      rw [List.nil_append] at h
      rw [joinLines_cons_cons, h, subNext, ih _ _ (edge_cons _)]
      simp only [List.map_cons, joinLines_cons_cons]
      rfl
  obtain ⟨line, lines, rfl⟩ := List.exists_cons_of_ne_nil hlines
  exact hafresh line lines [] edge_nil

theorem expand_within (template : Template) (q : Pos) (pre post : List Char) :
    expand template (Pos.within pre post q) = expand template q := by
  refine List.flatMap_congr fun piece _ ↦ ?_
  cases piece <;> rfl

theorem sub_joinLines {r : Regex} {template : Template} (hsafe : r.LineSafe)
    {lines : List (List Char)} (hlines : lines ≠ []) :
    r.sub template (joinLines lines) = joinLines (lines.map (r.sub template)) :=
  subWith_joinLines hsafe (expand_within template) hlines

end Regex
