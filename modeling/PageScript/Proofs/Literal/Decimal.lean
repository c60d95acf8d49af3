import PageScript.Proofs.Number.Digits

/-!
# Number literals

The texts that are numbers, said without a value: hexadecimal digits behind their mark, or digits
with a point among them and an exponent behind them, either of which may be missing.  Underscores
may stand wherever a digit may stand, and do not count as digits.

The reader of numbers takes more characters than make a number, such as two exponents in a row
(`Exponents`), and leaves it to the value to refuse them.  `Numeral.numberText` says that what is
left is a number.
-/

namespace PageScript

namespace Literal

open Reading (isDigit digitValue)

/-! ## Texts of numbers -/

/-- Digits and underscores. -/
def Digitlike (cs : List Char) : Prop := ∀ c ∈ cs, isDigit c = true ∨ c = '_'

def HasDigit (cs : List Char) : Prop := ∃ c ∈ cs, isDigit c = true

/-- At most one sign. -/
def Signlike (cs : List Char) : Prop := cs = [] ∨ cs = ['+'] ∨ cs = ['-']

/-- Nothing, or a point with digits behind it. -/
inductive Fraction : List Char → Prop
  | nothing : Fraction []
  | point {ds : List Char} (hds : Digitlike ds) : Fraction ('.' :: ds)

/-- Nothing, or the letter of an exponent with a whole number behind it. -/
inductive Exponent : List Char → Prop
  | nothing : Exponent []
  | letter {e : Char} {sign ds : List Char} (he : e = 'e' ∨ e = 'E') (hsign : Signlike sign)
      (hds : Digitlike ds) (hdigit : HasDigit ds) : Exponent (e :: (sign ++ ds))

/-- The text is a number without a sign. -/
inductive NumberText : List Char → Prop
  | hex {x : Char} {ds : List Char} (hx : x = 'x' ∨ x = 'X')
      (hds : ∀ c ∈ ds, (digitValue c).isSome = true ∨ c = '_')
      (hdigit : ∃ c ∈ ds, (digitValue c).isSome = true) : NumberText ('0' :: x :: ds)
  | decimal {whole fraction exponent : List Char} (hwhole : Digitlike whole)
      (hfraction : Fraction fraction) (hdigit : HasDigit (whole ++ fraction))
      (hexponent : Exponent exponent) : NumberText (whole ++ (fraction ++ exponent))

/-! ## What the reader of numbers takes -/

/-- Exponents in a row, with or without digits. -/
inductive Exponents : List Char → Prop
  | nil : Exponents []
  | cons {e : Char} {sign ds rest : List Char} (he : e = 'e' ∨ e = 'E') (hsign : Signlike sign)
      (hds : Digitlike ds) (hrest : Exponents rest) : Exponents (e :: (sign ++ (ds ++ rest)))

theorem digitlike_nil : Digitlike [] := by
  intro c hc
  cases hc

theorem Digitlike.cons {c : Char} {ds : List Char} (hc : isDigit c = true ∨ c = '_')
    (hds : Digitlike ds) : Digitlike (c :: ds) := by
  intro d hd
  rcases List.mem_cons.mp hd with rfl | hd
  · exact hc
  · exact hds d hd

/-- The characters taken are digits with at most one point and exponents, perhaps behind a sign. -/
theorem spanNumber_shape {cs : List Char} {real signed r : Bool}
    (h : spanNumber real signed cs = (cs, [], r)) : ∃ sign whole fraction tail,
      cs = sign ++ (whole ++ (fraction ++ tail)) ∧ Signlike sign ∧ (signed = false → sign = []) ∧
      Digitlike whole ∧ Fraction fraction ∧ (real = true → fraction = []) ∧ Exponents tail := by
  induction cs generalizing real signed with
  | nil =>
    exact ⟨[], [], [], [], rfl, .inl rfl, fun _ => rfl, digitlike_nil, .nothing, fun _ => rfl, .nil⟩
  | cons c cs ih =>
    have taken {real' signed' : Bool}
        (h : (c :: (spanNumber real' signed' cs).1, (spanNumber real' signed' cs).2) = (c :: cs, [], r)) :
        spanNumber real' signed' cs = (cs, [], r) := by
      obtain ⟨hfront, hrest⟩ := Prod.mk.inj h
      exact Prod.ext (List.cons.inj hfront).2 hrest
    simp only [spanNumber] at h
    split at h
    · -- a digit
      next hc =>
      obtain ⟨sign, whole, fraction, tail, rfl, -, hsign, hwhole, hfraction, hreal, htail⟩ :=
        ih (taken h)
      obtain rfl := hsign rfl
      exact ⟨[], c :: whole, fraction, tail, rfl, .inl rfl, fun _ => rfl,
        hwhole.cons (by simpa using hc), hfraction, hreal, htail⟩
    · split at h
      · -- a point
        next hc =>
        rw [Bool.and_eq_true, beq_iff_eq, Bool.not_eq_true'] at hc
        obtain ⟨rfl, rfl⟩ := hc
        obtain ⟨sign, whole, fraction, tail, rfl, -, hsign, hwhole, -, hreal, htail⟩ := ih (taken h)
        obtain rfl := hsign rfl
        obtain rfl := hreal rfl
        refine ⟨[], [], '.' :: whole, tail, rfl, .inl rfl, fun _ => rfl, digitlike_nil,
          .point hwhole, ?_, htail⟩
        intro real
        cases real
      · split at h
        · -- the letter of an exponent
          next hc =>
          obtain ⟨sign, whole, fraction, tail, rfl, hsigns, -, hwhole, -, hreal, htail⟩ :=
            ih (taken h)
          obtain rfl := hreal rfl
          refine ⟨[], [], [], _, rfl, .inl rfl, fun _ => rfl, digitlike_nil, .nothing, fun _ => rfl,
            .cons (by simpa using hc) hsigns hwhole htail⟩
        · split at h
          · -- its sign
            next hc =>
            rw [Bool.and_eq_true, Bool.or_eq_true, beq_iff_eq, beq_iff_eq] at hc
            obtain ⟨rfl, plusOrMinus⟩ := hc
            obtain ⟨sign, whole, fraction, tail, rfl, -, hsign, hwhole, hfraction, hreal, htail⟩ :=
              ih (taken h)
            obtain rfl := hsign rfl
            refine ⟨[c], whole, fraction, tail, rfl, ?_, ?_, hwhole, hfraction, hreal, htail⟩
            · rcases plusOrMinus with rfl | rfl
              · exact .inr (.inl rfl)
              · exact .inr (.inr rfl)
            · intro unsigned
              cases unsigned
          · cases h

/-! ## What is read -/

/-- The text without underscores. -/
def bare (cs : List Char) : List Char := cs.filter (· != '_')

theorem bare_append (cs ds : List Char) : bare (cs ++ ds) = bare cs ++ bare ds := List.filter_append ..

theorem bare_cons {c : Char} (hc : c ≠ '_') (cs : List Char) : bare (c :: cs) = c :: bare cs :=
  List.filter_cons_of_pos (by simpa using hc)

theorem Digitlike.bare {ds : List Char} (hds : Digitlike ds) : ∀ c ∈ bare ds, isDigit c = true := by
  intro c hc
  obtain ⟨hmem, hne⟩ := List.mem_filter.mp hc
  rcases hds c hmem with hdigit | rfl
  · exact hdigit
  · cases hne

theorem hasDigit_of_bare_ne_nil {ds : List Char} (hds : Digitlike ds) (hne : bare ds ≠ []) :
    HasDigit ds := by
  obtain ⟨c, cs, hcs⟩ := List.exists_cons_of_ne_nil hne
  have hc : c ∈ bare ds := by
    rw [hcs]
    exact List.mem_cons_self
  exact ⟨c, (List.mem_filter.mp hc).1, hds.bare c hc⟩

theorem Exponents.bare_head {tail : List Char} (h : Exponents tail) :
    ∀ c cs, bare tail = c :: cs → c = 'e' ∨ c = 'E' := by
  intro c cs heq
  cases h with
  | nil => cases heq
  | cons he hsign hds hrest =>
    rw [bare_cons (by rcases he with rfl | rfl <;> decide)] at heq
    obtain ⟨rfl, -⟩ := List.cons.inj heq
    exact he

theorem not_isDigit_letter {e : Char} (he : e = 'e' ∨ e = 'E') : isDigit e = false := by
  rcases he with rfl | rfl <;> rfl

/-- Digits, perhaps with signs among them, and at least one digit. -/
structure Counts (cs : List Char) : Prop where
  chars : ∀ c ∈ cs, isDigit c = true ∨ c = '+' ∨ c = '-'
  digit : HasDigit cs

theorem counts_of_digits {ds : List Char} (hne : ds ≠ []) (hds : ∀ c ∈ ds, isDigit c = true) :
    Counts ds := by
  obtain ⟨c, cs, rfl⟩ := List.exists_cons_of_ne_nil hne
  exact ⟨fun d hd => .inl (hds d hd), c, List.mem_cons_self, hds c List.mem_cons_self⟩

theorem Counts.sign {sign : Char} {ds : List Char} (hsign : sign = '+' ∨ sign = '-')
    (h : Counts ds) : Counts (sign :: ds) := by
  obtain ⟨c, hc, hdigit⟩ := h.digit
  refine ⟨fun d hd => ?_, c, List.mem_cons_of_mem _ hc, hdigit⟩
  rcases List.mem_cons.mp hd with rfl | hd
  · exact .inr hsign
  · exact h.chars d hd

theorem counts_of_exponentPart? {e : Char} {cs : List Char} {n : Int} (he : e = 'e' ∨ e = 'E')
    (h : Reading.exponentPart? (e :: cs) = some n) : Counts cs := by
  have letter : (e == 'e' || e == 'E') = true := by rcases he with rfl | rfl <;> rfl
  have digits {ds : List Char} {m : Option Int}
      (h : (if (ds.isEmpty || !ds.all isDigit) = true then none else m) = some n) : Counts ds := by
    split at h
    · cases h
    · next hds =>
      simp only [Bool.or_eq_true, Bool.not_eq_true', not_or, List.isEmpty_iff, Bool.not_eq_false,
        List.all_eq_true] at hds
      exact counts_of_digits hds.1 hds.2
  simp only [Reading.exponentPart?, letter, if_true] at h
  split at h
  · exact (digits h).sign (.inl rfl)
  · exact (digits h).sign (.inr rfl)
  · exact digits h

theorem Exponents.exponent {tail : List Char} (h : Exponents tail) {n : Int}
    (hread : Reading.exponentPart? (bare tail) = some n) : Exponent tail := by
  cases h with
  | nil => exact .nothing
  | @cons e sign ds rest he hsign hds hrest =>
    rw [bare_cons (by rcases he with rfl | rfl <;> decide)] at hread
    have counts := counts_of_exponentPart? he hread
    have only : rest = [] := by
      cases hrest with
      | nil => rfl
      | @cons e' sign' ds' rest' he' _ _ _ =>
        -- a second letter would be among the digits
        have second : e' ∈ bare (sign ++ (ds ++ e' :: (sign' ++ (ds' ++ rest')))) :=
          List.mem_filter.mpr ⟨by simp, by rcases he' with rfl | rfl <;> rfl⟩
        rcases counts.chars e' second with hdigit | hsign | hsign
        · rw [not_isDigit_letter he'] at hdigit
          cases hdigit
        · rcases he' with rfl | rfl <;> cases hsign
        · rcases he' with rfl | rfl <;> cases hsign
    subst only
    rw [List.append_nil] at counts ⊢
    obtain ⟨c, hc, hdigit⟩ := counts.digit
    refine .letter he hsign hds ⟨c, ?_, hdigit⟩
    rcases List.mem_append.mp (List.mem_filter.mp hc).1 with hmem | hmem
    · rcases hsign with rfl | rfl | rfl
      · cases hmem
      · rw [List.mem_singleton.mp hmem] at hdigit
        cases hdigit
      · rw [List.mem_singleton.mp hmem] at hdigit
        cases hdigit
    · exact hmem

theorem counts_of_int64? {cs : List Char} {n : Int} (h : Reading.int64? cs = some n) : Counts cs := by
  have counts {ds : List Char} {m : Nat} (hds : Digits 10 m ds) : Counts ds :=
    counts_of_digits hds.ne_nil hds.isDigit
  cases (Reading.int64?_eq_some_iff.mp h).1 with
  | digits hds => exact counts hds
  | plus hds => exact (counts hds).sign (.inl rfl)
  | minus hds => exact (counts hds).sign (.inr rfl)

/-- A number is read as a decimal if it begins with no sign. -/
theorem decimal?_of_double? {cs : List Char} {x : Double}
    (hunsigned : ∀ c rest, cs = c :: rest → c ≠ '+' ∧ c ≠ '-')
    (h : Reading.double? cs = some x) (hfinite : x.isFinite = true) :
    Reading.decimal? false cs = some x := by
  unfold Reading.double? at h
  split at h
  next negative body hbody =>
  split at hbody
  · exact absurd rfl (hunsigned _ _ rfl).1
  · exact absurd rfl (hunsigned _ _ rfl).2
  · obtain ⟨rfl, rfl⟩ := Prod.mk.inj hbody
    dsimp only at h
    split at h
    · cases h
      cases hfinite
    · split at h
      · cases h
        cases hfinite
      · exact h

theorem spanDigits_append {ds rest : List Char} (hds : ∀ c ∈ ds, isDigit c = true)
    (hrest : ∀ c cs, rest = c :: cs → isDigit c = false) :
    Reading.spanDigits (ds ++ rest) = (ds, rest) := by
  rw [Reading.spanDigits, List.takeWhile_append_of_pos hds, List.dropWhile_append_of_pos hds]
  cases rest with
  | nil => simp
  | cons c cs => simp [hrest c cs rfl]

/-- A decimal that is read has a digit, and its exponent is read. -/
theorem parts_of_decimal {ds fs rest : List Char} {number : Int → Double} {x : Double}
    (h : (if (ds.isEmpty && fs.isEmpty) = true then none
      else match Reading.exponentPart? rest with
        | none => none
        | some e => some (number e)) = some x) :
    (ds ≠ [] ∨ fs ≠ []) ∧ ∃ n, Reading.exponentPart? rest = some n := by
  split at h
  · cases h
  · next hne =>
    rw [Bool.and_eq_true, List.isEmpty_iff, List.isEmpty_iff, Classical.not_and_iff_not_or_not] at hne
    cases hn : Reading.exponentPart? rest with
    | none =>
      rw [hn] at h
      cases h
    | some n => exact ⟨hne, n, rfl⟩

section

variable {ds fs rest : List Char} {negative : Bool} {x : Double}
  (hds : ∀ c ∈ ds, isDigit c = true) (hrest : ∀ c cs, rest = c :: cs → c = 'e' ∨ c = 'E')

include hds hrest

theorem decimal?_whole (h : Reading.decimal? negative (ds ++ rest) = some x) :
    ds ≠ [] ∧ ∃ n, Reading.exponentPart? rest = some n := by
  have split := spanDigits_append hds fun c cs heq => not_isDigit_letter (hrest c cs heq)
  unfold Reading.decimal? at h
  simp only [split] at h
  split at h
  · next r => rcases hrest '.' r rfl with heq | heq <;> cases heq
  · obtain ⟨hne, hn⟩ := parts_of_decimal h
    exact ⟨by simpa using hne, hn⟩

theorem decimal?_point (hfs : ∀ c ∈ fs, isDigit c = true)
    (h : Reading.decimal? negative (ds ++ '.' :: (fs ++ rest)) = some x) :
    (ds ≠ [] ∨ fs ≠ []) ∧ ∃ n, Reading.exponentPart? rest = some n := by
  have split := spanDigits_append hfs fun c cs heq => not_isDigit_letter (hrest c cs heq)
  have front : Reading.spanDigits (ds ++ '.' :: (fs ++ rest)) = (ds, '.' :: (fs ++ rest)) :=
    spanDigits_append hds fun c cs heq => by
      cases heq
      rfl
  unfold Reading.decimal? at h
  simp only [front, split] at h
  exact parts_of_decimal h

end

/-! ## Numerals -/

section

variable {whole fraction tail : List Char} (hwhole : Digitlike whole)
  (hfraction : Fraction fraction) (htail : Exponents tail)

include hwhole hfraction htail

theorem numberText_of_counts (h : Counts (bare (whole ++ (fraction ++ tail)))) :
    NumberText (whole ++ (fraction ++ tail)) := by
  have only {c : Char} (hc : c ∈ whole ++ (fraction ++ tail)) (hbare : c ≠ '_') :
      isDigit c = true ∨ c = '+' ∨ c = '-' :=
    h.chars c (List.mem_filter.mpr ⟨hc, by simpa using hbare⟩)
  cases hfraction with
  | point hds =>
    rcases only (c := '.') (by simp) (by decide) with h | h | h <;> cases h
  | nothing =>
    cases htail with
    | @cons e sign ds rest he _ _ _ =>
      have letter := only (c := e) (by simp) (by rcases he with rfl | rfl <;> decide)
      rcases he with rfl | rfl <;> rcases letter with h | h | h <;> cases h
    | nil =>
      obtain ⟨c, hc, hdigit⟩ := h.digit
      exact .decimal hwhole .nothing ⟨c, (List.mem_filter.mp hc).1, hdigit⟩ .nothing

theorem numberText_of_decimal? {negative : Bool} {x : Double}
    (h : Reading.decimal? negative (bare (whole ++ (fraction ++ tail))) = some x) :
    NumberText (whole ++ (fraction ++ tail)) := by
  rw [bare_append, bare_append] at h
  cases hfraction with
  | nothing =>
    obtain ⟨hne, n, hn⟩ := decimal?_whole hwhole.bare htail.bare_head h
    obtain ⟨c, hc, hdigit⟩ := hasDigit_of_bare_ne_nil hwhole hne
    exact .decimal hwhole .nothing ⟨c, List.mem_append_left _ hc, hdigit⟩ (htail.exponent hn)
  | @point ds hds =>
    rw [bare_cons (by decide)] at h
    obtain ⟨hne, n, hn⟩ := decimal?_point hwhole.bare htail.bare_head hds.bare h
    refine .decimal hwhole (.point hds) ?_ (htail.exponent hn)
    rcases hne with hne | hne
    · obtain ⟨c, hc, hdigit⟩ := hasDigit_of_bare_ne_nil hwhole hne
      exact ⟨c, List.mem_append_left _ hc, hdigit⟩
    · obtain ⟨c, hc, hdigit⟩ := hasDigit_of_bare_ne_nil hds hne
      exact ⟨c, List.mem_append_right _ (List.mem_cons_of_mem _ hc), hdigit⟩

/-- No sign stands in front of the digits. -/
theorem bare_unsigned (c : Char) (rest : List Char)
    (h : bare (whole ++ (fraction ++ tail)) = c :: rest) : c ≠ '+' ∧ c ≠ '-' := by
  have of_digit (hc : isDigit c = true) : c ≠ '+' ∧ c ≠ '-' := by
    constructor <;> rintro rfl <;> cases hc
  rw [bare_append, bare_append] at h
  cases hfirst : bare whole with
  | cons d ds =>
    rw [hfirst] at h
    obtain ⟨rfl, -⟩ := List.cons.inj h
    exact of_digit (hwhole.bare d (by rw [hfirst]; exact List.mem_cons_self))
  | nil =>
    rw [hfirst] at h
    cases hfraction with
    | nothing => rcases htail.bare_head c rest h with rfl | rfl <;> decide
    | point hds =>
      rw [bare_cons (by decide)] at h
      obtain ⟨rfl, -⟩ := List.cons.inj h
      decide

end

/-- What is read as a number is a number. -/
theorem Numeral.numberText {negative : Bool} {v : Value} {cs : List Char}
    (h : Numeral negative v cs) : NumberText cs := by
  by_cases hx : HexMarked cs
  · obtain ⟨x, digits, hx, rfl⟩ := hx
    rw [Numeral, number_hex hx, hexNumber_eq_ok_iff] at h
    obtain ⟨hdrop, hv⟩ := h
    have whole : digits.takeWhile isHexPart = digits := by
      have split := List.takeWhile_append_dropWhile (p := isHexPart) (l := digits)
      rwa [hdrop, List.append_nil] at split
    rw [whole, hexValue?] at hv
    cases hn : Reading.natInBase? 16 (digits.filter (· != '_')) with
    | none =>
      rw [hn] at hv
      cases hv
    | some n =>
      have hdigits := (Reading.natInBase?_eq_some_iff (Nat.le_refl 16)).mp hn
      have hvalue : ∀ c ∈ digits.filter (· != '_'), (digitValue c).isSome = true :=
        hdigits.forall_mem (by decide +kernel)
      refine .hex hx (fun c hc => ?_) ?_
      · rw [← whole] at hc
        simpa [isHexPart] using mem_takeWhile hc
      · obtain ⟨c, hc⟩ := List.exists_mem_of_ne_nil _ hdigits.ne_nil
        exact ⟨c, (List.mem_filter.mp hc).1, hvalue c hc⟩
  · rw [Numeral, number_decimal hx, decimalNumber_eq_ok_iff] at h
    obtain ⟨front, real, hspan, hv⟩ := h
    obtain ⟨rfl, -, -⟩ := spanNumber_eq _ _ _ hspan
    rw [List.append_nil] at hspan ⊢
    obtain ⟨sign, whole, fraction, tail, rfl, -, hsign, hwhole, hfraction, -, htail⟩ :=
      spanNumber_shape hspan
    obtain rfl := hsign rfl
    rw [List.nil_append] at hv ⊢
    unfold decimalValue? at hv
    split at hv
    · next n hn =>
      split at hn
      · cases hn
      · exact numberText_of_counts hwhole hfraction htail (counts_of_int64? hn)
    · split at hv
      · cases hv
      · next x hx =>
        split at hv
        · next hfinite =>
          exact numberText_of_decimal? hwhole hfraction htail
            (decimal?_of_double? (bare_unsigned hwhole hfraction htail) hx hfinite)
        · cases hv

end Literal

end PageScript
