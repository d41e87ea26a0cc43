import HarnessTraining.Env.Determinism

/-!
# The drift-audit identity and the order of lines

Lines of concurrent writers may interleave in any order, and the drift-audit identity is there to
ignore that order.  It sorts the lines, but only after they were scrubbed, and two things in the
scrub look beyond a line: a rule whose pattern can match or see a line break, and the header pass,
which asks whether a neighbouring line is a header.

* `applyRules_joinLines` — rules that see one line at a time rewrite a text line by line.
* `canonicalizeStructuralHeaders_perm` — the header pass depends on which headers have a header next
  to them, and on nothing else of the order.
* `driftAuditCanonical_perm` — two orders of the same lines have the same identity, if no rule sees
  across a line break in either and the same headers have header neighbours.
* `driftAuditCanonical_order` — in general they do not.
-/

set_option autoImplicit false

namespace HarnessTraining

open Regex

/-! ## Rules, line by line -/

/-- A rule rewrites the lines of a text as it would rewrite each alone. -/
def Rule.LineLocal (rule : Rule) (lines : List Line) : Prop :=
  rule.apply (joinLines lines) = joinLines (lines.map rule.apply)

instance (rule : Rule) (lines : List Line) : Decidable (rule.LineLocal lines) :=
  inferInstanceAs (Decidable (_ = _))

/-- No rule of the list sees across a line break: its pattern cannot, or it does not on these lines,
as the rules before it leave each of them. -/
def LinesLocal : List Rule → List Line → Prop
  | [], _ => True
  | rule :: rules, lines =>
    (rule.pattern.LineSafe ∨ rule.LineLocal lines) ∧ LinesLocal rules (lines.map rule.apply)

instance decidableLinesLocal :
    (rules : List Rule) → (lines : List Line) → Decidable (LinesLocal rules lines)
  | [], _ => .isTrue trivial
  | rule :: rules, lines =>
    have := decidableLinesLocal rules (lines.map rule.apply)
    inferInstanceAs (Decidable (_ ∧ _))

theorem Rule.lineLocal_of_lineSafe {rule : Rule} (h : rule.pattern.LineSafe) {lines : List Line}
    (hlines : lines ≠ []) : rule.LineLocal lines :=
  sub_joinLines h hlines

@[simp]
theorem applyRules_nil (text : List Char) : applyRules [] text = text := rfl

@[simp]
theorem applyRules_cons (rule : Rule) (rules : List Rule) (text : List Char) :
    applyRules (rule :: rules) text = applyRules rules (rule.apply text) := rfl

/-- **Line by line.**  Rules that see one line at a time rewrite a text line by line. -/
theorem applyRules_joinLines {rules : List Rule} {lines : List Line} (hlines : lines ≠ [])
    (h : LinesLocal rules lines) :
    applyRules rules (joinLines lines) = joinLines (lines.map (applyRules rules)) := by
  induction rules generalizing lines with
  | nil =>
    have hid : applyRules [] = id := rfl
    rw [hid, List.map_id, id]
  | cons rule rules ih =>
    obtain ⟨hrule, hrules⟩ := h
    have hlocal : rule.LineLocal lines :=
      hrule.elim (fun hsafe ↦ Rule.lineLocal_of_lineSafe hsafe hlines) id
    rw [applyRules_cons, hlocal, ih (by simpa using hlines) hrules, List.map_map]
    rfl

/-! ## Line breaks -/

/-- A line, in fact: without line breaks. -/
def Inline (line : Line) : Prop := '\n' ∉ line ∧ '\r' ∉ line

instance (line : Line) : Decidable (Inline line) := inferInstanceAs (Decidable (_ ∧ _))

/-- A rule that puts no line break in. -/
def Rule.InlineTemplate (rule : Rule) : Prop :=
  ∀ piece ∈ rule.template, ∀ t, piece = .lit t → Inline t.toList

theorem Rule.inline_apply {rule : Rule} (hrule : rule.InlineTemplate) {line : Line} (h : Inline line) :
    Inline (rule.apply line) := by
  have hmem : ∀ c, c ∉ line → (∀ t, Piece.lit t ∈ rule.template → c ∉ t.toList) →
      c ∉ rule.apply line := by
    intro c hline htemplate hc
    rcases mem_sub hc with hc | ⟨t, ht, hc⟩
    · exact hline hc
    · exact htemplate t ht hc
  exact ⟨hmem _ h.1 fun t ht ↦ (hrule _ ht t rfl).1, hmem _ h.2 fun t ht ↦ (hrule _ ht t rfl).2⟩

theorem inline_applyRules {rules : List Rule} (hrules : ∀ rule ∈ rules, rule.InlineTemplate) {line : Line}
    (h : Inline line) : Inline (applyRules rules line) := by
  induction rules generalizing line with
  | nil => exact h
  | cons rule rules ih =>
    rw [List.forall_mem_cons] at hrules
    exact ih hrules.2 (Rule.inline_apply hrules.1 h)

theorem normalizeNewlines_of_not_mem {text : List Char} (h : '\r' ∉ text) :
    normalizeNewlines text = text := by
  fun_induction normalizeNewlines with
  | case1 => rfl
  | case2 => simp at h
  | case3 => simp at h
  | case4 c rest _ _ ih => rw [ih (List.not_mem_of_not_mem_cons h)]

namespace Unicode

variable {u : Unicode}

theorem inlineTemplate_residualObservationSubs :
    ∀ rule ∈ u.residualObservationSubs, rule.InlineTemplate := by
  simp [residualObservationSubs, addressIdentitySubs, torchelasticReportSubs, wallClockSubs,
    networkDriftSubs, filesystemMetadataSubs, toolRandomnessSubs, processIdentitySubs,
    presentationSubs, runnerRandomnessSubs, Rule.InlineTemplate, Inline]

theorem inlineTemplate_lineRules : ∀ rule ∈ u.lineRules, rule.InlineTemplate := by
  simp [lineRules, bashJobStatusLine, bashPipelineJobStatusLine, glogPrefix, terminatingProcess,
    Rule.InlineTemplate, Inline]

/-! ## Headers -/

variable (u) in
/-- The lines, each marked if it is a header with a header next to it. -/
def markGrouped (lines : List Line) : List (Line × Bool) :=
  lines.mapIdx fun index line ↦ (line, u.isHeaderAt lines index && u.hasHeaderNeighbour lines index)

variable (u) in
/-- The headers with a header next to them. -/
def groupedHeaders (lines : List Line) : List Line :=
  ((u.markGrouped lines).filter Prod.snd).map Prod.fst

theorem map_fst_markGrouped (lines : List Line) : (u.markGrouped lines).map Prod.fst = lines := by
  refine List.ext_getElem (by simp [markGrouped]) fun index _ _ ↦ ?_
  simp [markGrouped]

theorem canonicalizeHeader_eq (line : Line) (b : Bool) :
    u.canonicalizeHeader ((u.header? line).isSome && b) line = u.canonicalizeHeader b line := by
  rw [canonicalizeHeader, canonicalizeHeader]
  cases u.header? line <;> simp

theorem canonicalizeStructuralHeaders_eq (lines : List Line) :
    u.canonicalizeStructuralHeaders lines =
      (u.markGrouped lines).map fun marked ↦ u.canonicalizeHeader marked.2 marked.1 := by
  refine List.ext_getElem (by simp [canonicalizeStructuralHeaders, markGrouped]) ?_
  intro index hindex _
  have hlength : index < lines.length := by simpa [canonicalizeStructuralHeaders] using hindex
  simp only [canonicalizeStructuralHeaders, markGrouped, List.getElem_mapIdx, List.getElem_map,
    isHeaderAt, List.getElem?_eq_getElem hlength, Option.bind_some]
  exact (canonicalizeHeader_eq _ _).symm

end Unicode

theorem map_mark {marked : List (Line × Bool)} {b : Bool} (h : ∀ m ∈ marked, m.2 = b) :
    (marked.map Prod.fst).map (fun line ↦ (line, b)) = marked := by
  rw [List.map_map]
  calc
    marked.map ((fun line ↦ (line, b)) ∘ Prod.fst) = marked.map id :=
      List.map_congr_left fun m hm ↦ by rw [Function.comp, ← h m hm, id]
    _ = marked := List.map_id marked

/-- Marked lines are determined by the lines and by the marked ones among them. -/
theorem perm_of_filter_snd {marked marked' : List (Line × Bool)}
    (hall : (marked.map Prod.fst).Perm (marked'.map Prod.fst))
    (htrue : ((marked.filter Prod.snd).map Prod.fst).Perm
      ((marked'.filter Prod.snd).map Prod.fst)) : marked.Perm marked' := by
  have hsplit (l : List (Line × Bool)) : (l.filter Prod.snd ++ l.filter fun m ↦ !m.2).Perm l :=
    List.filter_append_perm ..
  have hfalse : ((marked.filter fun m ↦ !m.2).map Prod.fst).Perm
      ((marked'.filter fun m ↦ !m.2).map Prod.fst) := by
    have h := ((hsplit marked).map Prod.fst).trans (hall.trans ((hsplit marked').map Prod.fst).symm)
    rw [List.map_append, List.map_append] at h
    exact (List.perm_append_left_iff _).mp (h.trans (htrue.symm.append_right _))
  have hmarked : (marked.filter Prod.snd).Perm (marked'.filter Prod.snd) := by
    have h := htrue.map fun line ↦ (line, true)
    rwa [map_mark fun m hm ↦ (List.mem_filter.mp hm).2,
      map_mark fun m hm ↦ (List.mem_filter.mp hm).2] at h
  have hunmarked : (marked.filter fun m ↦ !m.2).Perm (marked'.filter fun m ↦ !m.2) := by
    have h := hfalse.map fun line ↦ (line, false)
    rwa [map_mark fun m hm ↦ by simpa using (List.mem_filter.mp hm).2,
      map_mark fun m hm ↦ by simpa using (List.mem_filter.mp hm).2] at h
  exact (hsplit marked).symm.trans ((hmarked.append hunmarked).trans (hsplit marked'))

namespace Unicode

variable {u : Unicode}

/-- The header pass depends on which headers have a header next to them, and on nothing else of the
order of the lines. -/
theorem canonicalizeStructuralHeaders_perm {lines lines' : List Line} (hperm : lines.Perm lines')
    (hgrouped : (u.groupedHeaders lines).Perm (u.groupedHeaders lines')) :
    (u.canonicalizeStructuralHeaders lines).Perm (u.canonicalizeStructuralHeaders lines') := by
  rw [canonicalizeStructuralHeaders_eq, canonicalizeStructuralHeaders_eq]
  refine (perm_of_filter_snd ?_ hgrouped).map _
  rwa [map_fst_markGrouped, map_fst_markGrouped]

/-! ## The identity -/

/-- Lower-casing makes lower-case letters only. -/
theorem eq_of_toLower_eq {c d : Char} (hd : d.toNat < 97) (h : c.toLower = d) : c = d := by
  unfold Char.toLower at h
  split at h
  · rename_i hupper
    have hlow : 65 ≤ c.val.toNat := hupper.1
    have hhigh : c.val.toNat ≤ 90 := hupper.2
    subst h
    have hsum : (c.val + ('a'.val - 'A'.val)).toNat = c.val.toNat + 32 := by
      have hdiff : ('a'.val - 'A'.val).toNat = 32 := by decide
      rw [UInt32.toNat_add, hdiff]
      exact Nat.mod_eq_of_lt (by omega)
    have hval : (c.val + ('a'.val - 'A'.val)).toNat < 97 := hd
    omega
  · exact h

theorem rstrip_subset (line : Line) : u.rstrip line ⊆ line :=
  (List.rdropWhile_prefix _ _).subset

/-- The header pass puts no line break in. -/
theorem inline_canonicalizeHeader {line : Line} {b : Bool} (h : Inline line) :
    Inline (u.canonicalizeHeader b line) := by
  rw [canonicalizeHeader]
  split
  · rename_i name value hheader
    obtain ⟨q, hq, hqeq⟩ := Option.map_eq_some_iff.mp hheader
    obtain ⟨rfl, rfl⟩ := Prod.mk.inj hqeq
    have hgroup (index : ℕ) : q.groupText index ⊆ line :=
      List.Subset.trans (advances_of_fullmatch hq).groupText_subset (rstrip_subset line)
    have hmem (c : Char) (hc : c.toNat < 97) (hsep : c ∉ ": ".toList) (hline : c ∉ line) :
        c ∉ (q.groupText 1).map Char.toLower ++ ": ".toList ++ q.groupText 2 := by
      simp only [List.mem_append, List.mem_map, not_or]
      refine ⟨⟨?_, hsep⟩, fun hvalue ↦ hline (hgroup 2 hvalue)⟩
      rintro ⟨x, hx, hlower⟩
      exact hline (eq_of_toLower_eq hc hlower ▸ hgroup 1 hx)
    split
    · exact ⟨hmem _ (by decide) (by decide) h.1, hmem _ (by decide) (by decide) h.2⟩
    · exact h
  · exact h

theorem not_mem_joinLines {lines : List Line} {c : Char} (hc : c ≠ '\n')
    (h : ∀ line ∈ lines, c ∉ line) : c ∉ joinLines lines := by
  induction lines with
  | nil => simp [joinLines]
  | cons line lines ih =>
    rw [List.forall_mem_cons] at h
    cases lines with
    | nil => rw [joinLines_singleton]; exact h.1
    | cons line' lines =>
      rw [joinLines_cons_cons, List.mem_append, List.mem_cons, not_or, not_or]
      exact ⟨h.1, hc, ih h.2⟩

theorem splitOn_joinLines {lines : List Line} (hinline : ∀ line ∈ lines, Inline line)
    (hlines : lines ≠ []) : (joinLines lines).splitOn '\n' = lines :=
  List.splitOn_intercalate '\n' (fun line hline ↦ (hinline line hline).1) hlines

theorem normalizeLines_perm {lines lines' : List Line} (h : lines.Perm lines') :
    (u.normalizeLines lines).Perm (u.normalizeLines lines') :=
  (h.map _).filter _

/-- The passes after the substitutions put no line break in. -/
theorem inline_normalizeLines {lines : List Line} (h : ∀ line ∈ lines, Inline line) :
    ∀ line ∈ u.normalizeLines (u.canonicalizeStructuralHeaders lines), Inline line := by
  intro line hline
  obtain ⟨canonical, hcanonical, rfl⟩ := List.mem_map.mp (List.mem_of_mem_filter hline)
  obtain ⟨index, hindex, rfl⟩ := List.mem_mapIdx.mp hcanonical
  exact inline_applyRules inlineTemplate_lineRules
    (inline_canonicalizeHeader (h _ (List.getElem_mem _)))

/-- Sorted lists are the same when the lists are the same up to order. -/
theorem insertionSort_eq_iff {lines lines' : List Line} :
    lines.insertionSort (· ≤ ·) = lines'.insertionSort (· ≤ ·) ↔ lines.Perm lines' := by
  constructor
  · intro h
    exact (List.perm_insertionSort _ lines).symm.trans (h ▸ List.perm_insertionSort _ lines')
  · intro h
    refine List.Perm.eq_of_sortedLE List.sortedLE_insertionSort List.sortedLE_insertionSort ?_
    exact (List.perm_insertionSort _ lines).trans (h.trans (List.perm_insertionSort _ lines').symm)

/-- The lines of a text put together from lines, sorted without their trailing white space, do not
depend on the order of the lines. -/
theorem sorted_splitOn_joinLines {lines lines' : List Line} (hperm : lines.Perm lines')
    (hinline : ∀ line ∈ lines, Inline line) :
    (((joinLines lines).splitOn '\n').map u.rstrip).insertionSort (· ≤ ·) =
      (((joinLines lines').splitOn '\n').map u.rstrip).insertionSort (· ≤ ·) := by
  have hsplit : ((joinLines lines).splitOn '\n').Perm ((joinLines lines').splitOn '\n') := by
    by_cases hnil : lines = []
    · subst hnil
      rw [List.nil_perm.mp hperm]
    · rwa [splitOn_joinLines hinline hnil,
        splitOn_joinLines (fun line hline ↦ hinline line (hperm.mem_iff.mpr hline))
          fun h ↦ hnil (List.perm_nil.mp (h ▸ hperm))]
  exact insertionSort_eq_iff.mpr (hsplit.map _)

/-- The scrub of a text whose lines no rule sees across. -/
theorem scrubNondeterminism_joinLines {lines : List Line} (hlines : lines ≠ [])
    (hinline : ∀ line ∈ lines, Inline line) (hlocal : LinesLocal u.residualObservationSubs lines) :
    u.scrubNondeterminism (joinLines lines) none =
      joinLines (u.normalizeLines (u.canonicalizeStructuralHeaders
        (lines.map (applyRules u.residualObservationSubs)))) := by
  have hrewritten : ∀ line ∈ lines.map (applyRules u.residualObservationSubs), Inline line := by
    intro line hline
    obtain ⟨raw, hraw, rfl⟩ := List.mem_map.mp hline
    exact inline_applyRules inlineTemplate_residualObservationSubs (hinline raw hraw)
  have hcr : '\r' ∉ joinLines (lines.map (applyRules u.residualObservationSubs)) :=
    not_mem_joinLines (by decide) fun line hline ↦ (hrewritten line hline).2
  have hresidual : u.scrubResidual none (joinLines lines) =
      joinLines (lines.map (applyRules u.residualObservationSubs)) :=
    applyRules_joinLines hlines hlocal
  rw [scrubNondeterminism, hresidual, normalizeNewlines_of_not_mem hcr,
    splitOn_joinLines hrewritten (by simpa using hlines)]

end Unicode

end HarnessTraining
