import PageScript.Proofs.Number.Digits

/-!
# Integer literals

An integer literal is a row of digits, decimal ones or hexadecimal ones behind their mark, with
underscores wherever the writer likes them behind the first digit.  A sign may stand in front, and
blanks behind the sign.  `SpellsInteger` says so from the side of the writer.

The readers take the digits into the signed 64-bit range before they look at the sign.  A literal is
therefore read as its integer exactly when the integer fits without its sign
(`SpellsInteger.read_iff`).  The least 64-bit integer does not: its decimal digits become a binary64
number, and its hexadecimal digits are refused.
-/

namespace PageScript

namespace Literal

open Text (Blank isBlank)

/-! ## Spellings -/

/-- The text is the digits of the number, with underscores behind the first digit. -/
inductive Unsigned : Nat → List Char → Prop where
  | decimal {n : Nat} {c : Char} {cs : List Char} (hc : c ≠ '_')
      (h : Digits 10 n ((c :: cs).filter (· != '_'))) : Unsigned n (c :: cs)
  | hex {n : Nat} {x : Char} {cs : List Char} (hx : x = 'x' ∨ x = 'X')
      (h : Digits 16 n (cs.filter (· != '_'))) : Unsigned n ('0' :: x :: cs)

/-- The text spells the integer: digits, perhaps with a sign and blanks in front. -/
inductive SpellsInteger : Int → List Char → Prop where
  | unsigned {n : Nat} {cs : List Char} (h : Unsigned n cs) : SpellsInteger n cs
  | signed {n : Nat} {sign : Char} {ws cs : List Char} (hsign : sign = '-' ∨ sign = '+')
      (hws : Blank ws) (h : Unsigned n cs) :
      SpellsInteger (if sign = '-' then -(n : Int) else n) (sign :: (ws ++ cs))

/-! ## The digits -/

section

variable {n : Nat} {m : Int} {negative : Bool} {cs rest : List Char}

/-- What holds of the digits holds of every character that is no underscore. -/
theorem forall_or_underscore {p : Char → Prop} (h : ∀ c ∈ cs.filter (· != '_'), p c) :
    ∀ c ∈ cs, p c ∨ c = '_' := by
  intro c hc
  by_cases hu : c = '_'
  · exact .inr hu
  · exact .inl (h c (List.mem_filter.mpr ⟨hc, by simpa using hu⟩))

theorem Digits.isHexPart (h : Digits 16 n (cs.filter (· != '_'))) :
    ∀ c ∈ cs, isHexPart c = true := by
  have digits := h.forall_mem (p := fun c => Literal.isHexPart c = true) (by decide +kernel)
  intro c hc
  rcases forall_or_underscore digits c hc with hd | rfl
  · exact hd
  · rfl

/-- Decimal digits are an integer as long as they fit, and else a binary64 number. -/
theorem Digits.decimalValue?_eq_int (h : Digits 10 n cs) :
    decimalValue? negative false cs = some (.int m) ↔
      (n : Int) ≤ Reading.int64Max ∧ m = if negative then -(n : Int) else n := by
  have low : Reading.int64Min ≤ 0 := by decide
  have value : Reading.int64? cs = if (n : Int) ≤ Reading.int64Max then some (n : Int) else none :=
    h.intInBase? (by omega)
  rw [decimalValue?, if_neg Bool.false_ne_true, value]
  by_cases hn : (n : Int) ≤ Reading.int64Max
  · simp [hn, Value.int, eq_comm]
  · simp only [hn, if_false, false_and, iff_false]
    cases Reading.double? cs with
    | none => simp
    | some x => by_cases hx : x.isFinite = true <;> simp [hx, Value.int]

/-- Hexadecimal digits are an integer as long as they fit. -/
theorem Digits.hexValue?_eq_int (h : Digits 16 n (cs.filter (· != '_'))) :
    hexValue? negative cs = some (.int m) ↔
      (n : Int) ≤ Reading.int64Max ∧ m = if negative then -(n : Int) else n := by
  have natural : Reading.natInBase? 16 (cs.filter (· != '_')) = some n := by
    rw [Reading.natInBase?, if_neg (by simp [h.ne_nil])]
    exact h.foldDigits (by decide)
  rw [hexValue?, natural]
  by_cases hn : (n : Int) ≤ Reading.int64Max
  · simp [hn, Value.int, eq_comm]
  · simp [hn]

/-- The digits are read whole, and as an integer as long as they fit without the sign. -/
theorem Unsigned.number_eq_iff (h : Unsigned n cs) :
    number negative cs = .ok (.int m, rest) ↔
      rest = [] ∧ (n : Int) ≤ Reading.int64Max ∧ m = if negative then -(n : Int) else n := by
  cases h with
  | @decimal c cs hc h =>
    have digits := forall_or_underscore h.isDigit
    rw [number_decimal (not_hexMarked digits), decimalNumber_eq_ok_iff, spanNumber_digits digits,
      ← h.decimalValue?_eq_int]
    constructor
    · rintro ⟨front, real, ⟨⟩, hv⟩
      exact ⟨rfl, hv⟩
    · rintro ⟨rfl, hv⟩
      exact ⟨_, _, rfl, hv⟩
  | @hex x cs hx h =>
    have parts := h.isHexPart
    obtain ⟨front, behind⟩ :=
      takeWhile_append_stops parts (fun c hc => (mark_facts c hc).2.2.1) stops_nil
    rw [List.append_nil] at front behind
    rw [number_hex hx, hexNumber_eq_ok_iff, front, behind, h.hexValue?_eq_int, eq_comm]

theorem Unsigned.head (h : Unsigned n cs) : ∃ c tail, cs = c :: tail ∧ startsNumber c = true := by
  cases h with
  | @decimal c cs hc h =>
    have first : c ∈ (c :: cs).filter (· != '_') :=
      List.mem_filter.mpr ⟨List.mem_cons_self, by simpa using hc⟩
    exact ⟨c, cs, rfl, by simp [startsNumber, h.isDigit c first]⟩
  | hex => exact ⟨_, _, rfl, rfl⟩

end

/-! ## Whole literals -/

variable {n : Int} {cs : List Char}

/-- An integer that fits without its sign is a literal. -/
theorem SpellsInteger.lexeme (h : SpellsInteger n cs) (hn : (n.natAbs : Int) ≤ Reading.int64Max) :
    Lexeme (.int n) cs := by
  cases h with
  | unsigned h =>
    obtain ⟨c, tail, rfl, hc⟩ := h.head
    exact .number hc (h.number_eq_iff.mpr ⟨rfl, hn, rfl⟩)
  | @signed n sign ws cs hsign hws h =>
    obtain ⟨c, tail, rfl, hc⟩ := h.head
    have fits : (n : Int) ≤ Reading.int64Max := by split at hn <;> simpa using hn
    exact .signed hsign hws hc (h.number_eq_iff.mpr ⟨rfl, fits, by simp⟩)

/-- A literal without others begins with no blank. -/
theorem isBlank_of_startsLexeme {c : Char} (h : startsLexeme c = true) : isBlank c = false := by
  have start := cannotStart_of_startsLexeme h
  rw [cannotStart, Bool.or_eq_false_iff] at start
  exact start.1

theorem startsLexeme_of_startsNumber {c : Char} (h : startsNumber c = true) :
    startsLexeme c = true := by
  simp [startsLexeme, h]

theorem SpellsInteger.head (h : SpellsInteger n cs) :
    ∃ c tail, cs = c :: tail ∧ startsLexeme c = true := by
  cases h with
  | unsigned h =>
    obtain ⟨c, tail, rfl, hc⟩ := h.head
    exact ⟨c, tail, rfl, startsLexeme_of_startsNumber hc⟩
  | signed hsign hws h =>
    refine ⟨_, _, rfl, ?_⟩
    rcases hsign with rfl | rfl <;> rfl

/-- The reader of single literals takes the integer only if it fits without its sign. -/
theorem SpellsInteger.fits_of_lexemeFrom {m : Int} {c : Char} {tail behind : List Char}
    (h : SpellsInteger n (c :: tail)) (hread : lexemeFrom c tail = .ok (.int m, behind)) :
    (n.natAbs : Int) ≤ Reading.int64Max := by
  generalize hcs : c :: tail = cs at h
  cases h with
  | unsigned h =>
    obtain ⟨d, more, rfl, hd⟩ := h.head
    cases hcs
    rw [lexemeFrom_number hd, h.number_eq_iff] at hread
    exact hread.2.1
  | @signed n sign ws cs hsign hws h =>
    cases hcs
    obtain ⟨d, more, rfl, hd⟩ := h.head
    have ink := isBlank_of_startsLexeme (startsLexeme_of_startsNumber hd)
    rw [lexemeFrom_sign hsign (Text.trimLeft_blank_cons hws ink more) hd, h.number_eq_iff] at hread
    split <;> simpa using hread.2.1

/-- An integer literal is read as its integer exactly when the integer fits without its sign. -/
theorem SpellsInteger.read_iff (h : SpellsInteger n cs) :
    read cs = .ok (.int n) ↔ (n.natAbs : Int) ≤ Reading.int64Max := by
  constructor
  · intro hread
    obtain ⟨c, tail, rfl, hc⟩ := h.head
    have ink := isBlank_of_startsLexeme hc
    obtain ⟨first, behind, hv⟩ := value_of_read ink hread
    rcases read_cases ink hv hread with ⟨_, _, _, _, _, _, hlist⟩ | ⟨-, rfl⟩
    · cases hlist
    · have same := value_lexeme ink (opens_of_startsLexeme hc) (3 * (c :: tail).length + 2) tail
      exact h.fits_of_lexemeFrom (same.symm.trans hv)
  · intro hn
    exact (Spells.lexeme (h.lexeme hn)).whole.read

/-- Every integer of 64 bits but the least is read from each of its spellings. -/
theorem parse_integer_iff (h : SpellsInteger n cs) (hlo : Reading.int64Min ≤ n)
    (hhi : n ≤ Reading.int64Max) :
    parse (String.ofList cs) = .ok (.int n) ↔ n ≠ Reading.int64Min := by
  have fits : (n.natAbs : Int) ≤ Reading.int64Max ↔ n ≠ Reading.int64Min := by
    simp only [Reading.int64Min, Reading.int64Max] at hlo hhi ⊢
    omega
  rw [← fits, ← h.read_iff, read_eq_ok_iff, parse_eq_ok_iff, String.toList_ofList]

/-- A negative hexadecimal number with a blank behind the sign and an underscore. -/
theorem parse_integer_iff_spaced :
    SpellsInteger (-31) "- 0x1_F".toList ∧ Reading.int64Min ≤ -31 ∧ -31 ≤ Reading.int64Max ∧
      parse (String.ofList "- 0x1_F".toList) = .ok (.int (-31)) := by
  have digits : Digits 16 31 ("1_F".toList.filter (· != '_')) :=
    @Digits.more 16 1 15 'F' ['1'] (.one (by decide) (.inl rfl)) (by decide) (.inr rfl)
  have spells : SpellsInteger (-31) "- 0x1_F".toList :=
    @SpellsInteger.signed 31 '-' [' '] "0x1_F".toList (.inl rfl) (.cons rfl Text.blank_nil)
      (.hex (.inl rfl) digits)
  have lo : Reading.int64Min ≤ -31 := by decide
  have hi : -31 ≤ Reading.int64Max := by decide
  exact ⟨spells, lo, hi, (parse_integer_iff spells lo hi).mpr (by decide)⟩

/-- The least integer of 64 bits is read as a binary64 number from its decimal digits, and it is not
read at all from its hexadecimal ones. -/
theorem least_integer_lost :
    SpellsInteger Reading.int64Min "-9223372036854775808".toList ∧
      parse "-9223372036854775808" = .ok (.number (.real (.finite true 4503599627370496 11))) ∧
      SpellsInteger Reading.int64Min "-0x8000000000000000".toList ∧
      parse "-0x8000000000000000" = .error
        (.expression "invalid hex literal at offset 19 in '-0x8000000000000000'") := by
  have decimal : Digits 10 9223372036854775808 "9223372036854775808".toList :=
    Reading.decimal_toDigits 9223372036854775808
  have hex : Digits 16 9223372036854775808 "8000000000000000".toList :=
    @Reading.digits_toDigits 16 (by decide) 9223372036854775808
  refine ⟨?_, rfl, ?_, rfl⟩
  · exact @SpellsInteger.signed 9223372036854775808 '-' [] "9223372036854775808".toList (.inl rfl)
      Text.blank_nil (.decimal (by decide) decimal)
  · exact @SpellsInteger.signed 9223372036854775808 '-' [] "0x8000000000000000".toList (.inl rfl)
      Text.blank_nil (.hex (.inl rfl) hex)

end Literal

end PageScript
