import PageScript.Text.Pieces

/-!
# Searching and replacing

Where a piece occurs in a text that is put together from others, and what becomes of the text when
the piece is replaced.  A character that is not in the piece keeps what stands on its two sides
apart, when it is searched for (`infix_around`) and when it is replaced (`replaceFrom_around`).  A
place holder that occurs nowhere else is replaced in its place (`replaceFrom_holder`).
-/

namespace PageScript

namespace Text

/-! ## Searching -/

theorem stripFront_isSome_iff :
    ∀ part cs : List Char, (stripFront part cs).isSome = true ↔ part <+: cs
  | [], cs => by simp [stripFront]
  | p :: part, [] => by simp [stripFront]
  | p :: part, c :: cs => by
    rw [List.cons_prefix_cons, stripFront]
    by_cases h : p = c
    · rw [if_pos h, stripFront_isSome_iff part cs, and_iff_right h]
    · simp [h]

theorem startsWith_iff {part cs : List Char} : startsWith part cs = true ↔ part <+: cs :=
  stripFront_isSome_iff part cs

theorem occursIn_iff {part cs : List Char} : occursIn part cs = true ↔ part <:+: cs := by
  induction cs with
  | nil => simp [occursIn]
  | cons c cs ih => rw [occursIn, Bool.or_eq_true, startsWith_iff, ih, List.infix_cons_iff]

/-- A given text is cut in two where its characters are. -/
theorem ofList_cut {cs front back : List Char} (h : cs = front ++ back) :
    String.ofList cs = String.ofList front ++ String.ofList back := by
  rw [h, String.ofList_append]

/-- Given texts are searched as the characters that they are written with. -/
theorem contains_ofList (cs part : List Char) :
    contains (String.ofList cs) (String.ofList part) = occursIn part cs := by
  rw [contains, String.toList_ofList, String.toList_ofList]

/-- A given text does not hold another. -/
theorem contains_eq_false {cs part : List Char} (h : occursIn part cs = false) :
    contains (String.ofList cs) (String.ofList part) = false :=
  (contains_ofList cs part).trans h

theorem contains_iff {s part : String} : contains s part = true ↔ part.toList <:+: s.toList :=
  occursIn_iff

theorem contains_append {s t part : String} (h : contains s part = true) :
    contains (s ++ t) part = true := by
  rw [contains_iff] at *
  rw [String.toList_append]
  exact h.trans (List.prefix_append _ _).isInfix

theorem contains_trans {s t part : String} (hs : contains s t = true) (ht : contains t part = true) :
    contains s part = true := by
  rw [contains_iff] at *
  exact ht.trans hs

theorem contains_between (front part back : String) :
    contains (front ++ part ++ back) part = true := by
  rw [contains_iff, String.toList_append, String.toList_append]
  exact List.infix_append _ _ _

/-- A piece at the beginning does not reach over a character that is not in it. -/
theorem prefix_of_around {front back : List Char} {c : Char} :
    ∀ {part : List Char}, c ∉ part → part <+: front ++ c :: back → part <+: front := by
  induction front with
  | nil =>
    intro part hc h
    cases part with
    | nil => exact List.prefix_refl []
    | cons p part => exact absurd (List.cons_prefix_cons.mp h).1 (List.ne_of_not_mem_cons hc).symm
  | cons d front ih =>
    intro part hc h
    cases part with
    | nil => exact List.nil_prefix
    | cons p part =>
      obtain ⟨rfl, hrest⟩ := List.cons_prefix_cons.mp h
      exact List.cons_prefix_cons.mpr ⟨rfl, ih (List.not_mem_of_not_mem_cons hc) hrest⟩

/-- What stands on the two sides of a character that is not in the piece is searched apart. -/
theorem infix_around {part front back : List Char} {c : Char} (hc : c ∉ part) (hpart : part ≠ []) :
    part <:+: front ++ c :: back ↔ part <:+: front ∨ part <:+: back := by
  constructor
  · intro h
    induction front with
    | nil =>
      rcases List.infix_cons_iff.mp h with hfront | hback
      · have empty : part <+: [] := prefix_of_around hc hfront
        exact absurd (List.prefix_nil.mp empty) hpart
      · exact .inr hback
    | cons d front ih =>
      rcases List.infix_cons_iff.mp h with hfront | hback
      · exact .inl (prefix_of_around hc hfront).isInfix
      · exact (ih hback).imp_left List.infix_cons
  · rintro (h | h)
    · exact h.trans (List.prefix_append front (c :: back)).isInfix
    · exact h.trans ((List.suffix_cons c back).trans (List.suffix_append front (c :: back))).isInfix

/-- Characters in front that are not in the piece have no part in it. -/
theorem infix_behind {part front cs : List Char} (h : ∀ c ∈ front, c ∉ part) :
    part <:+: front ++ cs ↔ part <:+: cs := by
  by_cases empty : part = []
  · simp [empty]
  induction front with
  | nil => rfl
  | cons c front ih =>
    have apart : part <:+: [] ++ c :: (front ++ cs) ↔ part <:+: [] ∨ part <:+: front ++ cs :=
      infix_around (h c List.mem_cons_self) empty
    rw [List.cons_append, ← List.nil_append (c :: _), apart, List.infix_nil, or_iff_right empty,
      ih fun d hd => h d (List.mem_cons_of_mem c hd)]

/-- A text between separators that are not in the piece is searched part by part. -/
theorem contains_join {sep : Char} {part : String} (hsep : sep ∉ part.toList)
    (hpart : part.toList ≠ []) :
    ∀ texts, contains (join (String.singleton sep) texts) part = texts.any (contains · part)
  | [] => by
    rw [List.any_nil, Bool.eq_false_iff, ne_eq, contains_iff]
    exact fun h => hpart (List.infix_nil.mp h)
  | [s] => by rw [List.any_cons, List.any_nil, Bool.or_false, join]
  | s :: t :: rest => by
    have whole : (join (String.singleton sep) (s :: t :: rest)).toList
        = s.toList ++ sep :: (join (String.singleton sep) (t :: rest)).toList := by
      simp [join]
    rw [List.any_cons, ← contains_join hsep hpart (t :: rest), Bool.eq_iff_iff, Bool.or_eq_true,
      contains_iff, contains_iff, contains_iff, whole, infix_around hsep hpart]

/-! ## Replacing -/

section

variable {part new : List Char}

theorem replaceFrom_skip (skip : Nat) (cs : List Char) :
    replaceFrom part new skip cs = replaceFrom part new 0 (cs.drop skip) := by
  induction skip generalizing cs with
  | zero => rfl
  | succ skip ih =>
    cases cs with
    | nil => rw [List.drop_nil, replaceFrom, replaceFrom]
    | cons c cs => rw [replaceFrom, ih, List.drop_succ_cons]

/-- The piece stands at the beginning. -/
theorem replaceFrom_prefix (hpart : part ≠ []) (back : List Char) :
    replaceFrom part new 0 (part ++ back) = new ++ replaceFrom part new 0 back := by
  obtain ⟨p, rest, rfl⟩ := List.exists_cons_of_ne_nil hpart
  have starts : startsWith (p :: rest) (p :: (rest ++ back)) = true :=
    startsWith_iff.mpr (List.prefix_append (p :: rest) back)
  rw [List.cons_append, replaceFrom, if_pos starts, replaceFrom_skip, List.length_cons,
    Nat.add_sub_cancel, List.drop_left]

theorem replaceFrom_of_not_infix {cs : List Char} (h : ¬ part <:+: cs) :
    replaceFrom part new 0 cs = cs := by
  induction cs with
  | nil => rfl
  | cons c cs ih =>
    have apart := not_or.mp (mt List.infix_cons_iff.mpr h)
    rw [replaceFrom, if_neg (mt startsWith_iff.mp apart.1), ih apart.2]

/-- What stands on the two sides of a character that is not in the piece is replaced apart. -/
theorem replaceFrom_around {c : Char} (hc : c ∉ part) (hpart : part ≠ []) (front back : List Char) :
    replaceFrom part new 0 (front ++ c :: back)
      = replaceFrom part new 0 front ++ c :: replaceFrom part new 0 back := by
  suffices passing : ∀ skip ≤ front.length, replaceFrom part new skip (front ++ c :: back)
      = replaceFrom part new skip front ++ c :: replaceFrom part new 0 back from
    passing 0 (Nat.zero_le _)
  induction front with
  | nil =>
    intro skip hskip
    obtain rfl := Nat.le_zero.mp hskip
    have apart : ¬ part <+: c :: back := by
      intro h
      have empty : part <+: [] := prefix_of_around hc h
      exact hpart (List.prefix_nil.mp empty)
    show replaceFrom part new 0 (c :: back) = c :: replaceFrom part new 0 back
    rw [replaceFrom, if_neg (mt startsWith_iff.mp apart)]
  | cons d front ih =>
    intro skip hskip
    cases skip with
    | succ skip => exact ih skip (Nat.le_of_succ_le_succ hskip)
    | zero =>
      have starts : startsWith part (d :: (front ++ c :: back)) = startsWith part (d :: front) := by
        rw [Bool.eq_iff_iff, startsWith_iff, startsWith_iff, ← List.cons_append]
        exact ⟨prefix_of_around hc, fun h => h.trans (List.prefix_append _ _)⟩
      rw [List.cons_append, replaceFrom, replaceFrom, starts]
      split
      · rename_i here
        have short := (startsWith_iff.mp here).length_le
        rw [List.length_cons] at short
        rw [ih _ (by omega), List.append_assoc]
      · rw [ih 0 (Nat.zero_le _), List.cons_append]

/-- Nothing is replaced exactly if the piece does not occur, as the new text begins otherwise. -/
theorem replaceFrom_eq_self_iff {p n : Char} {ps ns cs : List Char} (hne : n ≠ p) :
    replaceFrom (p :: ps) (n :: ns) 0 cs = cs ↔ ¬ (p :: ps) <:+: cs := by
  refine ⟨fun h => ?_, replaceFrom_of_not_infix⟩
  induction cs with
  | nil => simp
  | cons c cs ih =>
    rw [replaceFrom] at h
    split at h
    · rename_i here
      rw [(List.cons_prefix_cons.mp (startsWith_iff.mp here)).1] at hne
      exact absurd (List.cons.inj h).1 hne
    · rename_i elsewhere
      rw [List.infix_cons_iff, not_or]
      exact ⟨mt startsWith_iff.mpr elsewhere, ih (List.cons.inj h).2⟩

/-- Whether the piece stands at the beginning, in front of its place, shows before its last
character. -/
theorem prefix_before_holder {front back : List Char} (hfront : front ≠ [])
    (h : part <+: front ++ part ++ back) : part <+: front ++ part.dropLast := by
  have whole : front ++ part.dropLast <+: front ++ part ++ back := by
    rw [List.append_assoc, List.prefix_append_right_inj]
    exact (List.dropLast_prefix part).trans (List.prefix_append part back)
  refine List.prefix_of_prefix_length_le h whole ?_
  have long := List.length_pos_iff.mpr hfront
  rw [List.length_append, List.length_dropLast]
  omega

/-- A place holder is replaced in its place and nowhere else, if it does not occur behind its place,
nor in front of it, not even together with its own beginning. -/
theorem replaceFrom_holder {front back : List Char} (hpart : part ≠ [])
    (hfront : ¬ part <:+: front ++ part.dropLast) (hback : ¬ part <:+: back) :
    replaceFrom part new 0 (front ++ part ++ back) = front ++ new ++ back := by
  induction front with
  | nil =>
    rw [List.nil_append, List.nil_append, replaceFrom_prefix hpart, replaceFrom_of_not_infix hback]
  | cons c front ih =>
    obtain ⟨here, later⟩ := not_or.mp (mt List.infix_cons_iff.mpr hfront)
    have elsewhere : ¬ part <+: c :: (front ++ part ++ back) :=
      mt (prefix_before_holder (List.cons_ne_nil c front)) here
    rw [List.cons_append, List.cons_append, replaceFrom, if_neg (mt startsWith_iff.mp elsewhere),
      ih later, List.cons_append, List.cons_append]

end

section

variable {part new : String}

theorem replace_eq_self_iff {s : String} {p n : Char} {ps ns : List Char}
    (hpart : part.toList = p :: ps) (hnew : new.toList = n :: ns) (hne : n ≠ p) :
    replace part new s = s ↔ contains s part = false := by
  rw [replace, ← String.toList_inj, String.toList_ofList, Bool.eq_false_iff, ne_eq, contains_iff,
    hpart, hnew]
  exact replaceFrom_eq_self_iff hne

theorem replace_of_not_contains {s : String} (h : contains s part = false) :
    replace part new s = s := by
  rw [replace, replaceFrom_of_not_infix, String.ofList_toList]
  rw [← contains_iff, h]
  exact Bool.false_ne_true

/-- What stands on the two sides of a character that is not in the piece is replaced apart. -/
theorem replace_around {c : Char} (hc : c ∉ part.toList) (hpart : part.toList ≠ [])
    (front back : String) : replace part new (front ++ String.singleton c ++ back)
      = replace part new front ++ String.singleton c ++ replace part new back := by
  have whole : (front ++ String.singleton c ++ back).toList = front.toList ++ c :: back.toList := by
    simp
  rw [replace, whole, replaceFrom_around hc hpart, ← String.toList_inj]
  simp [replace]

/-- What stands between two such characters is replaced apart from what is around it. -/
theorem replace_between {c : Char} (hc : c ∉ part.toList) (hpart : part.toList ≠ [])
    (front inside back : String) :
    replace part new (front ++ (String.singleton c ++ inside ++ String.singleton c) ++ back)
      = replace part new front
        ++ replace part new (String.singleton c ++ inside ++ String.singleton c)
        ++ replace part new back := by
  have around := @replace_around part new c hc hpart
  have whole : front ++ (String.singleton c ++ inside ++ String.singleton c) ++ back
      = front ++ String.singleton c ++ inside ++ String.singleton c ++ back := by
    simp only [String.append_assoc]
  have alone : String.singleton c ++ inside ++ String.singleton c
      = "" ++ String.singleton c ++ inside ++ String.singleton c ++ "" := by
    simp only [String.empty_append, String.append_empty]
  have empty : replace part new "" = "" := rfl
  rw [whole, alone, around, around, around, around, empty]
  simp only [String.empty_append, String.append_empty, String.append_assoc]

/-- `start` is the place holder without its last character. -/
theorem replace_holder {front back start : String} (hpart : part.toList ≠ [])
    (hstart : start.toList = part.toList.dropLast) (hfront : contains (front ++ start) part = false)
    (hback : contains back part = false) :
    replace part new (front ++ part ++ back) = front ++ new ++ back := by
  rw [Bool.eq_false_iff, ne_eq, contains_iff, String.toList_append, hstart] at hfront
  rw [Bool.eq_false_iff, ne_eq, contains_iff] at hback
  rw [replace, ← String.toList_inj, String.toList_ofList]
  simp only [String.toList_append]
  exact replaceFrom_holder hpart hfront hback

end

end Text

end PageScript
