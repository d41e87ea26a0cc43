import Mathlib.Data.List.Forall2

/-!
# Interning

A writer writes an item in full when its name is new, and as a reference to its name from then on.  A
reader keeps what it reads in full, and looks a reference up.

* `Interning.readAll_writeAll` — the reader gets back every item, up to the items that share a name.
-/

set_option autoImplicit false

/-- How items of `α` with names in `N` are written to `β`. -/
structure Interning (α β N : Type) where
  name : α → N
  full : α → β
  reference : α → β
  nameOf : β → Option N
  content : β → Option α
  nameOf_full : ∀ a, nameOf (full a) = some (name a)
  nameOf_reference : ∀ a, nameOf (reference a) = some (name a)

namespace Interning

variable {α β N : Type} [BEq N] [LawfulBEq N] (i : Interning α β N)

/-- Write an item after the names in `seen`. -/
def write (seen : List N) (a : α) : β × List N :=
  if i.name a ∈ seen then (i.reference a, seen) else (i.full a, i.name a :: seen)

def writeAll : List N → List α → List β × List N
  | seen, [] => ([], seen)
  | seen, a :: as =>
    ((i.write seen a).1 :: (writeAll (i.write seen a).2 as).1, (writeAll (i.write seen a).2 as).2)

/-- Read an item back with what is known so far. -/
def read (known : List (N × α)) (b : β) : Option (α × List (N × α)) := do
  let name ← i.nameOf b
  match known.lookup name with
  | some a => some (a, known)
  | none => (i.content b).map fun a ↦ (a, (name, a) :: known)

def readAll : List (N × α) → List β → Option (List α × List (N × α))
  | known, [] => some ([], known)
  | known, b :: bs => do
    let (a, known) ← i.read known b
    let (as, known) ← readAll known bs
    some (a :: as, known)

/-- The reader knows an item for each name that the writer has seen. -/
structure Knows (name : α → N) (items : α → Prop) (seen : List N) (known : List (N × α)) : Prop where
  seen : ∀ n, n ∈ seen ↔ (known.lookup n).isSome = true
  named : ∀ n a, known.lookup n = some a → name a = n ∧ items a

omit [LawfulBEq N] in
theorem knows_nil (name : α → N) (items : α → Prop) : Knows name items [] [] where
  seen _ := by simp
  named _ _ h := by cases h

variable {i} {items : α → Prop} {r : α → α → Prop} {seen : List N} {known : List (N × α)}

/-- One item: a new name is learned, an old one is looked up. -/
theorem read_write (hcontent : ∀ a, items a → i.content (i.full a) = some a)
    (hsame : ∀ a a', items a → items a' → i.name a = i.name a' → r a a')
    (h : Knows i.name items seen known) {a : α} (ha : items a) :
    ∃ a' known', i.read known (i.write seen a).1 = some (a', known') ∧ r a' a ∧
      Knows i.name items (i.write seen a).2 known' := by
  rw [write]
  split
  · next hmem =>
    obtain ⟨a', hlookup⟩ := Option.isSome_iff_exists.mp ((h.seen _).mp hmem)
    obtain ⟨hname, ha'⟩ := h.named _ _ hlookup
    refine ⟨a', known, ?_, hsame a' a ha' ha hname, h⟩
    rw [read, i.nameOf_reference, Option.bind_eq_bind, Option.bind_some, hlookup]
  · next hnew =>
    have hlookup : known.lookup (i.name a) = none := by
      rw [← Option.not_isSome_iff_eq_none]
      exact fun hsome ↦ hnew ((h.seen _).mpr hsome)
    refine ⟨a, (i.name a, a) :: known, ?_, hsame a a ha ha rfl, fun n ↦ ?_, fun n a' hn ↦ ?_⟩
    · rw [read, i.nameOf_full, Option.bind_eq_bind, Option.bind_some, hlookup]
      dsimp only
      rw [hcontent a ha, Option.map_some]
    · rw [List.mem_cons, List.lookup_cons, h.seen]
      by_cases hn : n = i.name a
      · simp [hn]
      · simp [hn, beq_false_of_ne hn]
    · rw [List.lookup_cons] at hn
      by_cases hname : n = i.name a
      · rw [hname, beq_self_eq_true] at hn
        obtain rfl := Option.some.inj hn
        exact ⟨hname.symm, ha⟩
      · rw [beq_false_of_ne hname] at hn
        exact h.named n a' hn

/-- **What is written is read back**, in order: each item, or one of its name. -/
theorem readAll_writeAll (hcontent : ∀ a, items a → i.content (i.full a) = some a)
    (hsame : ∀ a a', items a → items a' → i.name a = i.name a' → r a a') :
    ∀ {as : List α} {seen : List N} {known : List (N × α)}, (∀ a ∈ as, items a) →
      Knows i.name items seen known →
        ∃ as' known', i.readAll known (i.writeAll seen as).1 = some (as', known') ∧
          List.Forall₂ r as' as ∧ Knows i.name items (i.writeAll seen as).2 known'
  | [], seen, known, _, h => ⟨[], known, rfl, .nil, h⟩
  | a :: as, seen, known, hitems, h => by
    obtain ⟨a', known', hread, hr, h'⟩ := read_write hcontent hsame h (hitems a List.mem_cons_self)
    obtain ⟨as', known'', hreads, hrs, h''⟩ := readAll_writeAll hcontent hsame
      (fun a ha ↦ hitems a (List.mem_cons_of_mem _ ha)) h'
    refine ⟨a' :: as', known'', ?_, .cons hr hrs, h''⟩
    rw [writeAll, readAll, hread, Option.bind_eq_bind, Option.bind_some]
    dsimp only
    rw [hreads]
    rfl

end Interning
