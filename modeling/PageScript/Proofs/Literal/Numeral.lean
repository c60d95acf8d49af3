import PageScript.Literal.Lexeme
import PageScript.Proofs.Text.Blank

/-!
# Numerals

Where the readers of literals stop, and which texts are numbers.

A reader looks one character past a number or a name, and past blanks for another string.  `Stops`
says of what follows that none of them goes on there: behind blanks it ends, or begins with a comma,
a colon or a closing bracket.  Blanks, delimiters, brackets and quotes are the `marks`, which no
number and no name contains.

`number_ok` says what the reader of numbers takes, and that it takes the same in front of every text
that stops it.  `Numeral` says that a text as a whole is a number.
-/

namespace PageScript

namespace Literal

open Text (Blank isBlank trimLeft)

/-! ## Where readers stop -/

/-- A character that stands between values or closes a container. -/
def isDelimiter (c : Char) : Bool := c == ',' || c == ':' || c == ']' || c == ')' || c == '}'

/-- Behind blanks, the text ends or begins with a delimiter. -/
def Stops (rest : List Char) : Prop :=
  ∀ c more, trimLeft rest = c :: more → isDelimiter c = true

/-- The characters that belong to no number and no name: blanks, delimiters, opening brackets and
quotes. -/
def marks : List Char := Text.blanks ++ [',', ':', ']', ')', '}', '[', '(', '{', '\'', '"']

/-- No character of the text is a mark. -/
def Plain (cs : List Char) : Prop := ∀ c ∈ cs, c ∉ marks

/-- A character of a decimal number. -/
def isNumberChar (c : Char) : Bool :=
  Reading.isDigit c || c == '_' || c == '.' || c == 'e' || c == 'E' || c == '+' || c == '-'

/-- What marks are not. -/
theorem mark_facts : ∀ c ∈ marks, isNameChar c = false ∧ isNumberChar c = false ∧
    isHexPart c = false ∧ startsNumber c = false ∧ c ≠ '-' ∧ c ≠ '+' ∧ c ≠ 'x' ∧ c ≠ 'X' :=
  Text.forall_of_all (by decide +kernel)

theorem isDelimiter_cases {c : Char} (h : isDelimiter c = true) :
    c = ',' ∨ c = ':' ∨ c = ']' ∨ c = ')' ∨ c = '}' := by
  simpa [isDelimiter, or_assoc] using h

theorem mem_marks_of_isBlank {c : Char} (h : isBlank c = true) : c ∈ marks :=
  List.mem_append_left _ (Text.mem_blanks h)

theorem mem_marks_of_isDelimiter {c : Char} (h : isDelimiter c = true) : c ∈ marks := by
  rcases isDelimiter_cases h with rfl | rfl | rfl | rfl | rfl <;> decide +kernel

theorem mem_marks_of_isQuote {c : Char} (h : isQuote c = true) : c ∈ marks := by
  have cases : c = '\'' ∨ c = '"' := by simpa [isQuote] using h
  rcases cases with rfl | rfl <;> decide +kernel

theorem isBlank_of_isQuote {c : Char} (h : isQuote c = true) : isBlank c = false := by
  have cases : c = '\'' ∨ c = '"' := by simpa [isQuote] using h
  rcases cases with rfl | rfl <;> decide +kernel

theorem isBlank_of_isDelimiter {c : Char} (h : isDelimiter c = true) : isBlank c = false := by
  rcases isDelimiter_cases h with rfl | rfl | rfl | rfl | rfl <;> decide +kernel

theorem isBlank_of_not_mem_marks {c : Char} (h : c ∉ marks) : isBlank c = false := by
  cases hb : isBlank c with
  | false => rfl
  | true => exact absurd (mem_marks_of_isBlank hb) h

theorem stops_nil : Stops [] := by
  intro c more h
  cases h

theorem stops_cons {c : Char} (h : isDelimiter c = true) (cs : List Char) : Stops (c :: cs) := by
  intro d more hd
  rw [Text.trimLeft_cons_ink (isBlank_of_isDelimiter h)] at hd
  cases hd
  exact h

theorem Stops.blank {ws rest : List Char} (hws : Blank ws) (h : Stops rest) :
    Stops (ws ++ rest) := by
  intro c more hc
  rw [Text.trimLeft_append hws] at hc
  exact h c more hc

/-- The first character of a text that stops readers is a mark. -/
theorem Stops.mem_marks {c : Char} {cs : List Char} (h : Stops (c :: cs)) : c ∈ marks := by
  cases hb : isBlank c with
  | true => exact mem_marks_of_isBlank hb
  | false => exact mem_marks_of_isDelimiter (h c cs (Text.trimLeft_cons_ink hb cs))

/-- A text that stops readers does not go on with a quote, nor with one behind blanks. -/
theorem Stops.not_quote {rest more : List Char} {c : Char} (h : Stops rest)
    (hc : trimLeft rest = c :: more) : isQuote c = false := by
  rcases isDelimiter_cases (h c more hc) with rfl | rfl | rfl | rfl | rfl <;> rfl

/-! ## Runs of characters

The longest run of characters with a property, in front of a text that begins without it. -/

theorem takeWhile_append_stops {p : Char → Bool} {run more : List Char}
    (hrun : ∀ c ∈ run, p c = true) (hp : ∀ c ∈ marks, p c = false) (hm : Stops more) :
    (run ++ more).takeWhile p = run ∧ (run ++ more).dropWhile p = more := by
  induction run with
  | nil =>
    cases more with
    | nil => exact ⟨rfl, rfl⟩
    | cons c cs =>
      have hc := hp c hm.mem_marks
      exact ⟨by simp [hc], by simp [hc]⟩
  | cons c run ih =>
    obtain ⟨ht, hd⟩ := ih (fun d hd => hrun d (List.mem_cons_of_mem c hd))
    have hc := hrun c List.mem_cons_self
    exact ⟨by simp [hc, ht], by simp [hc, hd]⟩

theorem mem_takeWhile {p : Char → Bool} {cs : List Char} {c : Char} (h : c ∈ cs.takeWhile p) :
    p c = true := by
  have := List.all_takeWhile (p := p) (l := cs)
  exact List.all_eq_true.mp this c h

/-! ## Numbers -/

/-- A character goes into a decimal number, or ends it, whatever follows. -/
theorem spanNumber_cons (real signed : Bool) (c : Char) :
    (isNumberChar c = true ∧ ∃ real' signed', ∀ more, spanNumber real signed (c :: more) =
      (c :: (spanNumber real' signed' more).1, (spanNumber real' signed' more).2)) ∨
    ∀ more, spanNumber real signed (c :: more) = ([], c :: more, real) := by
  simp only [spanNumber]
  by_cases h1 : (Reading.isDigit c || c == '_') = true
  · refine .inl ⟨by simp only [isNumberChar, h1, Bool.true_or], real, false, fun more => ?_⟩
    rw [if_pos h1]
  · by_cases h2 : (c == '.' && !real) = true
    · have hc : c = '.' := by
        rw [Bool.and_eq_true, beq_iff_eq] at h2
        exact h2.1
      refine .inl ⟨by subst hc; decide, true, false, fun more => ?_⟩
      rw [if_neg h1, if_pos h2]
    · by_cases h3 : (c == 'e' || c == 'E') = true
      · have hc : c = 'e' ∨ c = 'E' := by simpa using h3
        refine .inl ⟨by rcases hc with rfl | rfl <;> decide, true, true, fun more => ?_⟩
        rw [if_neg h1, if_neg h2, if_pos h3]
      · by_cases h4 : (signed && (c == '+' || c == '-')) = true
        · have hc : c = '+' ∨ c = '-' := by
            rw [Bool.and_eq_true, Bool.or_eq_true, beq_iff_eq, beq_iff_eq] at h4
            exact h4.2
          refine .inl ⟨by rcases hc with rfl | rfl <;> decide, real, false, fun more => ?_⟩
          rw [if_neg h1, if_neg h2, if_neg h3, if_pos h4]
        · refine .inr fun more => ?_
          rw [if_neg h1, if_neg h2, if_neg h3, if_neg h4]

theorem spanNumber_stops {more : List Char} (hm : Stops more) (real signed : Bool) :
    spanNumber real signed more = ([], more, real) := by
  cases more with
  | nil => rfl
  | cons c cs =>
    rcases spanNumber_cons real signed c with ⟨hc, -⟩ | hdrop
    · rw [(mark_facts c hm.mem_marks).2.1] at hc
      cases hc
    · exact hdrop cs

/-- The characters of a decimal number are kept up to the first that belongs to none. -/
theorem spanNumber_eq : ∀ (cs : List Char) (real signed : Bool) {front rest : List Char} {r : Bool},
    spanNumber real signed cs = (front, rest, r) →
    cs = front ++ rest ∧ (∀ c ∈ front, isNumberChar c = true) ∧
      ∀ more, Stops more → spanNumber real signed (front ++ more) = (front, more, r)
  | [], real, signed, front, rest, r, h => by
    simp only [spanNumber, Prod.mk.injEq] at h
    obtain ⟨rfl, rfl, rfl⟩ := h
    exact ⟨rfl, by simp, fun more hm => spanNumber_stops hm real signed⟩
  | c :: cs, real, signed, front, rest, r, h => by
    rcases spanNumber_cons real signed c with ⟨hc, real', signed', hstep⟩ | hdrop
    · obtain ⟨front', rest', r', hs⟩ : ∃ f t b, spanNumber real' signed' cs = (f, t, b) :=
        ⟨_, _, _, rfl⟩
      rw [hstep, hs] at h
      simp only [Prod.mk.injEq] at h
      obtain ⟨rfl, rfl, rfl⟩ := h
      obtain ⟨rfl, hchars, hmore⟩ := spanNumber_eq cs real' signed' hs
      refine ⟨rfl, ?_, fun more hm => ?_⟩
      · intro d hd
        cases List.mem_cons.mp hd with
        | inl he => rw [he]; exact hc
        | inr ht => exact hchars d ht
      · rw [List.cons_append, hstep, hmore more hm]
    · rw [hdrop] at h
      simp only [Prod.mk.injEq] at h
      obtain ⟨rfl, rfl, rfl⟩ := h
      exact ⟨rfl, by simp, fun more hm => spanNumber_stops hm real signed⟩

/-- The value of the characters of a decimal number; `real` says that there is a point or an exponent
among them. -/
def decimalValue? (negative real : Bool) (text : List Char) : Option Value :=
  match (if real then none else Reading.int64? text) with
  | some n => some (.int (if negative then -n else n))
  | none =>
    match Reading.double? text with
    | none => none
    | some x => if x.isFinite then some (.number (.real (if negative then x.neg else x))) else none

theorem decimalValue?_nil (negative real : Bool) : decimalValue? negative real [] = none := by
  cases real <;> rfl

theorem decimalNumber_eq_ok_iff {negative : Bool} {cs rest : List Char} {v : Value} :
    decimalNumber negative cs = .ok (v, rest) ↔
      ∃ front real, spanNumber false false cs = (front, rest, real) ∧
        decimalValue? negative real (front.filter (· != '_')) = some v := by
  obtain ⟨front, rest', real, hs⟩ : ∃ f t b, spanNumber false false cs = (f, t, b) := ⟨_, _, _, rfl⟩
  have hpoint : decimalValue? negative real ['.'] = none := by cases real <;> rfl
  have reads : decimalNumber negative cs = .ok (v, rest) ↔
      rest' = rest ∧ decimalValue? negative real (front.filter (· != '_')) = some v := by
    simp only [decimalNumber, hs]
    generalize front.filter (· != '_') = text
    by_cases hp : text = ['.']
    · simp [hp, hpoint]
    · rw [if_neg hp, decimalValue?]
      cases (if real = true then none else Reading.int64? text) with
      | some n => simp [and_comm]
      | none =>
        cases Reading.double? text with
        | none => simp
        | some x => by_cases hx : x.isFinite = true <;> simp [hx, and_comm]
  rw [reads]
  constructor
  · rintro ⟨rfl, hv⟩
    exact ⟨front, real, hs, hv⟩
  · rintro ⟨front', real', hs', hv⟩
    rw [hs] at hs'
    cases hs'
    exact ⟨rfl, hv⟩

/-- The value of the digits of a hexadecimal number. -/
def hexValue? (negative : Bool) (digits : List Char) : Option Value :=
  match Reading.natInBase? 16 (digits.filter (· != '_')) with
  | some n =>
    if (n : Int) ≤ Reading.int64Max then some (.int (if negative then -(n : Int) else n)) else none
  | none => none

theorem hexNumber_eq_ok_iff {negative : Bool} {cs rest : List Char} {v : Value} :
    hexNumber negative cs = .ok (v, rest) ↔
      cs.dropWhile isHexPart = rest ∧ hexValue? negative (cs.takeWhile isHexPart) = some v := by
  rw [hexNumber, hexValue?]
  generalize (cs.takeWhile isHexPart).filter (· != '_') = digits
  cases Reading.natInBase? 16 digits with
  | none => simp
  | some n => by_cases hn : (n : Int) ≤ Reading.int64Max <;> simp [hn, and_comm]

/-- The text begins with the mark of a hexadecimal number. -/
def HexMarked (cs : List Char) : Prop := ∃ x rest, (x = 'x' ∨ x = 'X') ∧ cs = '0' :: x :: rest

theorem number_hex {x : Char} (hx : x = 'x' ∨ x = 'X') (negative : Bool) (cs : List Char) :
    number negative ('0' :: x :: cs) = hexNumber negative cs := by
  rcases hx with rfl | rfl <;> rfl

theorem number_decimal {cs : List Char} (h : ¬ HexMarked cs) (negative : Bool) :
    number negative cs = decimalNumber negative cs := by
  unfold number
  split
  · exact absurd ⟨'x', _, .inl rfl, rfl⟩ h
  · exact absurd ⟨'X', _, .inr rfl, rfl⟩ h
  · rfl

/-- The text as a whole is a number without its sign. -/
def Numeral (negative : Bool) (v : Value) (cs : List Char) : Prop :=
  number negative cs = .ok (v, [])

theorem plain_of_numberChars {cs : List Char} (h : ∀ c ∈ cs, isNumberChar c = true) : Plain cs := by
  intro c hc hmark
  have hnum := (mark_facts c hmark).2.1
  rw [h c hc] at hnum
  cases hnum

theorem plain_of_hexParts {x : Char} {cs : List Char} (hx : x = 'x' ∨ x = 'X')
    (h : ∀ c ∈ cs, isHexPart c = true) : Plain ('0' :: x :: cs) := by
  intro c hc hmark
  obtain ⟨-, hnum, hhex, -, -, -, hx1, hx2⟩ := mark_facts c hmark
  rcases List.mem_cons.mp hc with rfl | hc
  · cases hnum
  · rcases List.mem_cons.mp hc with rfl | hc
    · rcases hx with rfl | rfl
      · exact hx1 rfl
      · exact hx2 rfl
    · rw [h c hc] at hhex
      cases hhex

/-- In front of a text that stops readers no mark of a hexadecimal number comes up. -/
theorem not_hexMarked_append {front rest more : List Char} (hne : front ≠ [])
    (hx : ¬ HexMarked (front ++ rest)) (hm : Stops more) : ¬ HexMarked (front ++ more) := by
  rintro ⟨x, digits, hxx, heq⟩
  cases front with
  | nil => exact hne rfl
  | cons c front =>
    rw [List.cons_append, List.cons.injEq] at heq
    obtain ⟨rfl, heq⟩ := heq
    cases front with
    | nil =>
      have hmm : more = x :: digits := heq
      subst hmm
      have facts := mark_facts x hm.mem_marks
      rcases hxx with rfl | rfl
      · exact facts.2.2.2.2.2.2.1 rfl
      · exact facts.2.2.2.2.2.2.2 rfl
    | cons d front =>
      rw [List.cons_append, List.cons.injEq] at heq
      exact hx ⟨x, front ++ rest, hxx, by rw [← heq.1]; rfl⟩

/-- What the reader of numbers takes, and that it takes it from every text that stops it. -/
theorem number_ok {negative : Bool} {cs rest : List Char} {v : Value}
    (h : number negative cs = .ok (v, rest)) :
    ∃ used, cs = used ++ rest ∧ used ≠ [] ∧ Plain used ∧
      ∀ more, Stops more → number negative (used ++ more) = .ok (v, more) := by
  by_cases hx : HexMarked cs
  · obtain ⟨x, digits, hx, rfl⟩ := hx
    rw [number_hex hx, hexNumber_eq_ok_iff] at h
    obtain ⟨rfl, hv⟩ := h
    have hrun : ∀ c ∈ digits.takeWhile isHexPart, isHexPart c = true := fun c hc => mem_takeWhile hc
    refine ⟨'0' :: x :: digits.takeWhile isHexPart, ?_, List.cons_ne_nil _ _,
      plain_of_hexParts hx hrun, fun more hm => ?_⟩
    · rw [List.cons_append, List.cons_append, List.takeWhile_append_dropWhile]
    · obtain ⟨ht, hd⟩ := takeWhile_append_stops hrun (fun c hc => (mark_facts c hc).2.2.1) hm
      rw [List.cons_append, List.cons_append, number_hex hx, hexNumber_eq_ok_iff, hd, ht]
      exact ⟨rfl, hv⟩
  · rw [number_decimal hx, decimalNumber_eq_ok_iff] at h
    obtain ⟨front, real, hs, hv⟩ := h
    obtain ⟨rfl, hchars, hmore⟩ := spanNumber_eq _ _ _ hs
    have hne : front ≠ [] := by
      rintro rfl
      rw [List.filter_nil, decimalValue?_nil] at hv
      cases hv
    refine ⟨front, rfl, hne, plain_of_numberChars hchars, fun more hm => ?_⟩
    rw [number_decimal (not_hexMarked_append hne hx hm), decimalNumber_eq_ok_iff]
    exact ⟨front, real, hmore more hm, hv⟩

theorem numeral_of_number {negative : Bool} {cs rest : List Char} {v : Value}
    (h : number negative cs = .ok (v, rest)) : ∃ used, cs = used ++ rest ∧ Numeral negative v used := by
  obtain ⟨used, heq, -, -, hmore⟩ := number_ok h
  refine ⟨used, heq, ?_⟩
  have := hmore [] stops_nil
  rwa [List.append_nil] at this

theorem Numeral.facts {negative : Bool} {cs : List Char} {v : Value} (h : Numeral negative v cs) :
    cs ≠ [] ∧ Plain cs ∧
      ∀ more, Stops more → number negative (cs ++ more) = .ok (v, more) := by
  obtain ⟨used, heq, hne, hplain, hmore⟩ := number_ok h
  rw [List.append_nil] at heq
  subst heq
  exact ⟨hne, hplain, hmore⟩

end Literal

end PageScript
