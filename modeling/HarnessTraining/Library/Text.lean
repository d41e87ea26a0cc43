import Mathlib.Data.List.Sort
import Mathlib.Data.List.Basic

/-!
# Separated texts

A text that is put together from parts tells the parts, if a part does not hold the separator.
-/

set_option autoImplicit false

namespace Text

variable {α : Type}

/-- Sorted lists are the same when the lists are the same up to order. -/
theorem insertionSort_inj [LinearOrder α] {xs ys : List α} :
    xs.insertionSort (· ≤ ·) = ys.insertionSort (· ≤ ·) ↔ xs.Perm ys := by
  constructor
  · intro h
    exact (List.perm_insertionSort _ xs).symm.trans (h ▸ List.perm_insertionSort _ ys)
  · intro h
    refine List.Perm.eq_of_sortedLE List.sortedLE_insertionSort List.sortedLE_insertionSort ?_
    exact (List.perm_insertionSort _ xs).trans (h.trans (List.perm_insertionSort _ ys).symm)

/-- A text is split at its first separator. -/
theorem append_cons_inj {sep : α} {first first' rest rest' : List α} (h : sep ∉ first)
    (h' : sep ∉ first') (heq : first ++ sep :: rest = first' ++ sep :: rest') :
    first = first' ∧ rest = rest' := by
  induction first generalizing first' with
  | nil =>
    cases first' with
    | nil => exact ⟨rfl, (List.cons.inj heq).2⟩
    | cons x first' => exact absurd (List.cons.inj heq).1 fun hx ↦ h' (hx ▸ List.mem_cons_self)
  | cons x first ih =>
    cases first' with
    | nil => exact absurd (List.cons.inj heq).1 fun hx ↦ h (hx ▸ List.mem_cons_self)
    | cons x' first' =>
      obtain ⟨rfl, htail⟩ := List.cons.inj heq
      obtain ⟨rfl, hrest⟩ := ih (fun hmem ↦ h (List.mem_cons_of_mem _ hmem))
        (fun hmem ↦ h' (List.mem_cons_of_mem _ hmem)) htail
      exact ⟨rfl, hrest⟩

/-- A text is split at its last separator. -/
theorem append_cons_inj_last {sep : α} {first first' rest rest' : List α} (h : sep ∉ rest)
    (h' : sep ∉ rest') (heq : first ++ sep :: rest = first' ++ sep :: rest') :
    first = first' ∧ rest = rest' := by
  have hreverse := congrArg List.reverse heq
  simp only [List.reverse_append, List.reverse_cons, List.append_assoc, List.singleton_append] at hreverse
  obtain ⟨hrest, hfirst⟩ := append_cons_inj (by simpa using h) (by simpa using h') hreverse
  exact ⟨List.reverse_injective hfirst, List.reverse_injective hrest⟩

/-- Joined parts are told apart. -/
theorem intercalate_inj [DecidableEq α] {sep : α} {xs ys : List (List α)} (hxs : ∀ x ∈ xs, sep ∉ x)
    (hys : ∀ y ∈ ys, sep ∉ y) (hxs' : xs ≠ []) (hys' : ys ≠ []) :
    [sep].intercalate xs = [sep].intercalate ys ↔ xs = ys := by
  constructor
  · intro h
    rw [← List.splitOn_intercalate sep hxs hxs', h, List.splitOn_intercalate sep hys hys']
  · rintro rfl
    rfl

end Text
