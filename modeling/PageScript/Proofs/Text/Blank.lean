import PageScript.Text.Pieces

/-!
# Blanks

What taking blanks off a text does to a text that is put together from pieces.  A run of blanks in
front vanishes, a run of blanks at the end vanishes, and a text with other characters at both ends
stays.

There are twenty-five blanks.  `mem_blanks` brings a statement about every blank down to that list,
so that it can be decided.
-/

namespace PageScript

namespace Text

/-- Nothing but blanks. -/
def Blank (ws : List Char) : Prop := ∀ c ∈ ws, isBlank c = true

theorem blank_nil : Blank [] := by
  intro c hc
  cases hc

theorem Blank.cons {c : Char} {ws : List Char} (hc : isBlank c = true) (hws : Blank ws) :
    Blank (c :: ws) := by
  intro d hd
  cases List.mem_cons.mp hd with
  | inl h => rw [h]; exact hc
  | inr h => exact hws d h

theorem Blank.append {ws vs : List Char} (hws : Blank ws) (hvs : Blank vs) : Blank (ws ++ vs) := by
  intro c hc
  cases List.mem_append.mp hc with
  | inl h => exact hws c h
  | inr h => exact hvs c h

theorem Blank.head {c : Char} {ws : List Char} (h : Blank (c :: ws)) : isBlank c = true :=
  h c List.mem_cons_self

theorem Blank.tail {c : Char} {ws : List Char} (h : Blank (c :: ws)) : Blank ws :=
  fun d hd => h d (List.mem_cons_of_mem c hd)

/-! ## The list of all blanks -/

/-- A check of every character of a list. -/
theorem forall_of_all {p : Char → Prop} [DecidablePred p] {cs : List Char}
    (h : (cs.all fun c => decide (p c)) = true) : ∀ c ∈ cs, p c := by
  intro c hc
  exact of_decide_eq_true (List.all_eq_true.mp h c hc)

/-- The code points of all blanks. -/
def blankCodes : List Nat :=
  [0x9, 0xA, 0xB, 0xC, 0xD, 0x20, 0x85, 0xA0, 0x1680, 0x2000, 0x2001, 0x2002, 0x2003, 0x2004,
    0x2005, 0x2006, 0x2007, 0x2008, 0x2009, 0x200A, 0x2028, 0x2029, 0x202F, 0x205F, 0x3000]

/-- All blanks. -/
def blanks : List Char := blankCodes.map Char.ofNat

theorem mem_blanks {c : Char} (h : isBlank c = true) : c ∈ blanks := by
  have code : c.toNat ∈ blankCodes := by
    simp only [isBlank, Bool.or_eq_true, Bool.and_eq_true, decide_eq_true_eq, beq_iff_eq] at h
    simp only [blankCodes, List.mem_cons, List.not_mem_nil, or_false]
    omega
  have back : Char.ofNat c.toNat = c := Char.ofNat_toNat c
  exact List.mem_map.mpr ⟨c.toNat, code, back⟩

/-! ## Blanks in front -/

theorem trimLeft_cons_blank {c : Char} (h : isBlank c = true) (cs : List Char) :
    trimLeft (c :: cs) = trimLeft cs := by
  rw [trimLeft, List.dropWhile_cons_of_pos h, trimLeft]

theorem trimLeft_cons_ink {c : Char} (h : isBlank c = false) (cs : List Char) :
    trimLeft (c :: cs) = c :: cs := by
  rw [trimLeft, List.dropWhile_cons_of_neg (by simp [h])]

theorem trimLeft_append {ws : List Char} (h : Blank ws) (cs : List Char) :
    trimLeft (ws ++ cs) = trimLeft cs := by
  induction ws with
  | nil => rfl
  | cons c ws ih => rw [List.cons_append, trimLeft_cons_blank h.head, ih h.tail]

theorem trimLeft_of_blank {ws : List Char} (h : Blank ws) : trimLeft ws = [] := by
  have := trimLeft_append h []
  rwa [List.append_nil] at this

theorem trimLeft_trimLeft (cs : List Char) : trimLeft (trimLeft cs) = trimLeft cs := by
  induction cs with
  | nil => rfl
  | cons c cs ih =>
    by_cases h : isBlank c = true
    · rw [trimLeft_cons_blank h, ih]
    · rw [trimLeft_cons_ink (by simpa using h), trimLeft_cons_ink (by simpa using h)]

/-- A text is a run of blanks and what is left without it. -/
theorem exists_blank_append (cs : List Char) : ∃ ws, Blank ws ∧ cs = ws ++ trimLeft cs := by
  induction cs with
  | nil => exact ⟨[], blank_nil, rfl⟩
  | cons c cs ih =>
    by_cases h : isBlank c = true
    · obtain ⟨ws, hws, heq⟩ := ih
      refine ⟨c :: ws, hws.cons h, ?_⟩
      rw [trimLeft_cons_blank h, List.cons_append, ← heq]
    · exact ⟨[], blank_nil, (trimLeft_cons_ink (by simpa using h) cs).symm⟩

theorem blank_of_trimLeft {cs : List Char} (h : trimLeft cs = []) : Blank cs := by
  obtain ⟨ws, hws, heq⟩ := exists_blank_append cs
  rw [h, List.append_nil] at heq
  rw [heq]
  exact hws

/-- What is left without the blanks in front begins with another character. -/
theorem trimLeft_blank_cons {ws : List Char} (hws : Blank ws) {c : Char} (hc : isBlank c = false)
    (more : List Char) : trimLeft (ws ++ c :: more) = c :: more := by
  rw [trimLeft_append hws, trimLeft_cons_ink hc]

theorem exists_blank_cons {cs more : List Char} {c : Char} (h : trimLeft cs = c :: more) :
    ∃ ws, Blank ws ∧ cs = ws ++ c :: more := by
  rw [← h]
  exact exists_blank_append cs

theorem isBlank_of_trimLeft {cs rest : List Char} {c : Char} (h : trimLeft cs = c :: rest) :
    isBlank c = false := by
  induction cs with
  | nil => cases h
  | cons d cs ih =>
    by_cases hd : isBlank d = true
    · rw [trimLeft_cons_blank hd] at h
      exact ih h
    · rw [trimLeft_cons_ink (by simpa using hd)] at h
      cases h
      simpa using hd

/-! ## Blanks at the end -/

/-- The text ends with a character that is no blank. -/
def EndsInInk (cs : List Char) : Prop := ∃ front c, cs = front ++ [c] ∧ isBlank c = false

theorem EndsInInk.append {cs : List Char} (h : EndsInInk cs) (front : List Char) :
    EndsInInk (front ++ cs) := by
  obtain ⟨f, c, rfl, hc⟩ := h
  exact ⟨front ++ f, c, (List.append_assoc ..).symm, hc⟩

theorem EndsInInk.cons {cs : List Char} (h : EndsInInk cs) (c : Char) : EndsInInk (c :: cs) :=
  h.append [c]

theorem endsInInk_singleton {c : Char} (h : isBlank c = false) : EndsInInk [c] :=
  ⟨[], c, rfl, h⟩

theorem trimRight_append_blank {cs ws : List Char} (hcs : EndsInInk cs) (hws : Blank ws) :
    trimRight (cs ++ ws) = cs := by
  obtain ⟨front, c, rfl, hc⟩ := hcs
  have back : Blank ws.reverse := fun d hd => hws d (List.mem_reverse.mp hd)
  have drop : (ws.reverse ++ c :: front.reverse).dropWhile isBlank = c :: front.reverse := by
    rw [← trimLeft, trimLeft_append back, trimLeft_cons_ink hc]
  have flip : (front ++ [c] ++ ws).reverse = ws.reverse ++ c :: front.reverse := by simp
  rw [trimRight, dropRightWhile, flip, drop]
  simp

theorem trimRight_of_blank {ws : List Char} (h : Blank ws) : trimRight ws = [] := by
  have back : Blank ws.reverse := fun d hd => h d (List.mem_reverse.mp hd)
  rw [trimRight, dropRightWhile, ← trimLeft, trimLeft_of_blank back]
  rfl

/-- Taking blanks off the end leaves a text in front of other characters alone. -/
theorem trimRight_append {cs : List Char} (front : List Char) (h : ¬ Blank cs) :
    trimRight (front ++ cs) = front ++ trimRight cs := by
  have rest : ∃ c more, trimLeft cs.reverse = c :: more := by
    cases hr : trimLeft cs.reverse with
    | nil =>
      have := blank_of_trimLeft hr
      exact absurd (fun c hc => this c (List.mem_reverse.mpr hc)) h
    | cons c more => exact ⟨c, more, rfl⟩
  obtain ⟨c, more, hcm⟩ := rest
  obtain ⟨ws, hws, heq⟩ := exists_blank_append cs.reverse
  have whole : (cs.reverse ++ front.reverse).dropWhile isBlank = c :: more ++ front.reverse := by
    rw [heq, List.append_assoc, ← trimLeft, trimLeft_append hws, hcm, List.cons_append,
      trimLeft_cons_ink (isBlank_of_trimLeft hcm)]
  rw [trimRight, dropRightWhile, List.reverse_append, whole, trimRight, dropRightWhile,
    ← trimLeft, hcm]
  simp

theorem trimRight_append_ink (front : List Char) {c : Char} (hc : isBlank c = false)
    (rest : List Char) : trimRight (front ++ c :: rest) = front ++ c :: trimRight rest := by
  have split : front ++ c :: rest = front ++ [c] ++ rest := by simp
  rw [split]
  by_cases h : Blank rest
  · rw [trimRight_append_blank ((endsInInk_singleton hc).append front) h, trimRight_of_blank h]
  · rw [trimRight_append _ h]
    simp

/-! ## Trimmed texts -/

theorem trimRight_prefix (cs : List Char) : trimRight cs <+: cs :=
  ⟨_, dropRightWhile_append_takeWhile isBlank cs⟩

/-- A trimmed text begins with no blank. -/
theorem isBlank_of_trim {cs rest : List Char} {c : Char} (h : trim cs = c :: rest) :
    isBlank c = false := by
  obtain ⟨back, hback⟩ := trimRight_prefix (trimLeft cs)
  rw [← trim, h, List.cons_append] at hback
  exact isBlank_of_trimLeft hback.symm

theorem trimLeft_ink {cs : List Char} (h : ∀ c ∈ cs, isBlank c = false) : trimLeft cs = cs := by
  cases cs with
  | nil => rfl
  | cons c cs => exact trimLeft_cons_ink (h c List.mem_cons_self) cs

theorem trimRight_ink {cs : List Char} (h : ∀ c ∈ cs, isBlank c = false) : trimRight cs = cs := by
  have back := trimLeft_ink fun c hc => h c (List.mem_reverse.mp hc)
  rw [trimRight, dropRightWhile, ← trimLeft, back, List.reverse_reverse]

/-- A text without blanks is trimmed. -/
theorem trim_ink {cs : List Char} (h : ∀ c ∈ cs, isBlank c = false) : trim cs = cs := by
  rw [trim, trimLeft_ink h, trimRight_ink h]

theorem trimRight_trimRight (cs : List Char) : trimRight (trimRight cs) = trimRight cs := by
  have back := trimLeft_trimLeft cs.reverse
  simp only [trimLeft] at back
  simp only [trimRight, dropRightWhile, List.reverse_reverse, back]

/-- A text is trimmed once and for all. -/
theorem trim_trim (cs : List Char) : trim (trim cs) = trim cs := by
  have front : trimLeft (trim cs) = trim cs := by
    cases h : trim cs with
    | nil => rfl
    | cons c rest => exact trimLeft_cons_ink (isBlank_of_trim h) rest
  rw [trim, front, trim, trimRight_trimRight]

theorem trimmed_trimmed (s : String) : trimmed (trimmed s) = trimmed s := by
  rw [trimmed, trimmed, String.toList_ofList, trim_trim]

end Text

end PageScript
