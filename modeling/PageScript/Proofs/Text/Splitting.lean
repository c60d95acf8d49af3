import PageScript.Text.Pieces

/-!
# Splitting at separators

A text is cut at every separator, so it has one part more than it has separators.  Pieces that are
put together with a separator and a gap between them come back as the parts, each behind the first
with the gap in front, if no piece holds the separator (`splitAll_intercalate`).  If a piece holds
one, there are too many parts (`not_mem_of_length_splitAll`).
-/

namespace PageScript

namespace Text

variable {sep : Char} {gap front : List Char}

theorem splitAll_ne_nil (sep : Char) (cs : List Char) : splitAll sep cs ≠ [] := by
  cases cs with
  | nil => exact List.cons_ne_nil _ _
  | cons c cs =>
    rw [splitAll]
    split
    · exact List.cons_ne_nil _ _
    · split <;> exact List.cons_ne_nil _ _

/-- There is one part more than there are separators. -/
theorem length_splitAll (sep : Char) (cs : List Char) :
    (splitAll sep cs).length = cs.count sep + 1 := by
  induction cs with
  | nil => rfl
  | cons c cs ih =>
    by_cases hc : c = sep
    · rw [splitAll, if_pos hc, List.length_cons, ih, hc, List.count_cons_self]
    · rw [splitAll, if_neg hc, List.count_cons_of_ne hc, ← ih]
      cases hparts : splitAll sep cs with
      | nil => exact absurd hparts (splitAll_ne_nil sep cs)
      | cons part parts => rfl

theorem splitAll_of_not_mem (h : sep ∉ front) : splitAll sep front = [front] := by
  induction front with
  | nil => rfl
  | cons c cs ih =>
    rw [List.mem_cons, not_or] at h
    rw [splitAll, if_neg (Ne.symm h.1), ih h.2]

theorem splitAll_append (h : sep ∉ front) (rest : List Char) :
    splitAll sep (front ++ sep :: rest) = front :: splitAll sep rest := by
  induction front with
  | nil => exact if_pos rfl
  | cons c cs ih =>
    rw [List.mem_cons, not_or] at h
    rw [List.cons_append, splitAll, if_neg (Ne.symm h.1), ih h.2]

/-! ## The first and the last separator -/

theorem not_mem_of_splitOnce {cs : List Char} (h : splitOnce sep cs = none) : sep ∉ cs := by
  induction cs with
  | nil => exact List.not_mem_nil
  | cons c cs ih =>
    rw [splitOnce] at h
    split at h
    · cases h
    · next hc =>
      rw [List.mem_cons, not_or]
      exact ⟨Ne.symm hc, ih (Option.map_eq_none_iff.mp h)⟩

/-- Behind the last separator there is none. -/
theorem splitLast_eq_some_iff {cs back : List Char} :
    splitLast sep cs = some (front, back) ↔ cs = front ++ sep :: back ∧ sep ∉ back := by
  rw [splitLast, Option.map_eq_some_iff]
  constructor
  · rintro ⟨⟨b, f⟩, hsplit, same⟩
    cases same
    obtain ⟨whole, hb⟩ := splitOnce_eq_some hsplit
    refine ⟨?_, fun h => hb (List.mem_reverse.mp h)⟩
    rw [← List.reverse_reverse cs, whole]
    simp
  · rintro ⟨rfl, hback⟩
    refine ⟨(back.reverse, front.reverse), ?_, by simp⟩
    rw [List.reverse_append, List.reverse_cons, List.append_assoc]
    exact splitOnce_append (fun h => hback (List.mem_reverse.mp h)) _

theorem mem_of_mem_trim {c : Char} {cs : List Char} (h : c ∈ trim cs) : c ∈ cs := by
  obtain ⟨front, back, heq, -, -⟩ := trim_eq cs
  rw [heq]
  simp [h]

/-! ## Pieces put together -/

theorem append_intercalate (glue piece first : List Char) (pieces : List (List Char)) :
    piece ++ List.intercalate glue (first :: pieces)
      = List.intercalate glue ((piece ++ first) :: pieces) := by
  cases pieces with
  | nil => simp only [List.intercalate_singleton]
  | cons second pieces => simp only [List.intercalate_cons_cons, List.append_assoc]

/-- Pieces without separators come back. -/
theorem splitAll_intercalate (hgap : sep ∉ gap) {first : List Char} {pieces : List (List Char)}
    (h : ∀ piece ∈ first :: pieces, sep ∉ piece) :
    splitAll sep (List.intercalate (sep :: gap) (first :: pieces))
      = first :: pieces.map (gap ++ ·) := by
  induction pieces generalizing first with
  | nil =>
    rw [List.intercalate_singleton]
    exact splitAll_of_not_mem (h first List.mem_cons_self)
  | cons second pieces ih =>
    have more : ∀ piece ∈ (gap ++ second) :: pieces, sep ∉ piece := by
      intro piece hpiece
      rcases List.mem_cons.mp hpiece with rfl | hpiece
      · simpa [hgap] using h second (by simp)
      · exact h piece (by simp [hpiece])
    rw [List.intercalate_cons_cons, List.append_assoc, List.cons_append,
      splitAll_append (h first List.mem_cons_self), append_intercalate, ih more]
    rfl

/-- The separators are those between the pieces and those inside them. -/
theorem count_intercalate (hgap : sep ∉ gap) (first : List Char) (pieces : List (List Char)) :
    (List.intercalate (sep :: gap) (first :: pieces)).count sep
      = pieces.length + (first :: pieces).flatten.count sep := by
  induction pieces generalizing first with
  | nil => simp
  | cons second pieces ih =>
    have split : (first :: second :: pieces).flatten = first ++ (second :: pieces).flatten :=
      List.flatten_cons
    rw [List.intercalate_cons_cons, List.count_append, List.count_append, ih, split,
      List.count_append, List.count_cons_self, List.count_eq_zero.mpr hgap, List.length_cons]
    omega

/-- As many parts as pieces only come back if no piece holds the separator. -/
theorem not_mem_of_length_splitAll (hgap : sep ∉ gap) {first : List Char}
    {pieces : List (List Char)}
    (h : (splitAll sep (List.intercalate (sep :: gap) (first :: pieces))).length
      = (first :: pieces).length) : ∀ piece ∈ first :: pieces, sep ∉ piece := by
  intro piece hpiece hsep
  rw [length_splitAll, count_intercalate hgap, List.length_cons] at h
  have inside : 0 < (first :: pieces).flatten.count sep :=
    List.count_pos_iff.mpr (List.mem_flatten.mpr ⟨piece, hpiece, hsep⟩)
  omega

end Text

end PageScript
