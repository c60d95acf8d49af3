import PageScript.Arguments
import PageScript.Proofs.Number.Exact

/-!
# Integer arguments

Operations read amounts, offsets and counts as integers.  The readers are right about a number
(`Arguments.ReadsInteger`) if they give its value where that is a 64-bit integer, and refuse the
number where it is not.

They take every number as a binary64 number first, and bring its value into the 64-bit range.  So
they are right about an integer that has at most 53 significant bits, about the greatest 64-bit
integer, which is rounded up and brought back, and about a binary64 number that is in the range or
has a fraction (`Number.Kept`).  Other integers are changed, and a whole number beyond the range
becomes the end of the range.
-/

namespace PageScript

/-! ## Numbers -/

namespace Number

/-- The exact value of a number. -/
def value? : Number → Option ℚ
  | .integer n => some n
  | .real x => x.value?

/-- The number is exactly a 64-bit integer. -/
def IsInt64 (num : Number) (n : Int) : Prop :=
  num.value? = some (n : ℚ) ∧ Reading.int64Min ≤ n ∧ n ≤ Reading.int64Max

/-- A number as documents hold them: an integer of 64 bits, signed or not, or a finite binary64
number. -/
def InDocuments : Number → Prop
  | .integer n => Reading.int64Min ≤ n ∧ n ≤ Reading.nat64Max
  | .real x => x.isFinite = true

/-- An integer in the range that has few bits or is the greatest one, or a binary64 number that is no
integer beyond the range. -/
def Kept : Number → Prop
  | .integer n => n ≤ Reading.int64Max ∧
      (n = Reading.int64Max ∨ ∃ m k : Nat, m < 2 ^ 53 ∧ n.natAbs = m * 2 ^ k)
  | .real x => ∀ n : Int, x.value? = some (n : ℚ) → Reading.int64Min ≤ n ∧ n ≤ Reading.int64Max

theorem isInt64_integer {m n : Int} :
    (Number.integer m).IsInt64 n ↔ m = n ∧ Reading.int64Min ≤ n ∧ n ≤ Reading.int64Max := by
  rw [IsInt64, value?, Option.some_inj, Int.cast_inj]

theorem IsInt64.unique {num : Number} {m n : Int} (hm : num.IsInt64 m) (hn : num.IsInt64 n) :
    m = n :=
  Int.cast_inj.mp (Option.some_inj.mp (hm.1.symm.trans hn.1))

end Number

namespace Arguments

/-- What a reader answers is exactly what fits, and where nothing fits it fails with an argument
error. -/
structure Answers {α : Type} (answer : Except Error α) (fits : α → Prop) : Prop where
  gives : ∀ x, answer = .ok x ↔ fits x
  refuses : (∀ x, ¬ fits x) → ∃ message, answer = .error (.argument message)

theorem Answers.of_ok {α : Type} {answer : Except Error α} {fits : α → Prop} {x : α}
    (h : answer = .ok x) (hx : fits x) (unique : ∀ y, fits y → y = x) : Answers answer fits := by
  refine ⟨fun y => ⟨fun hy => ?_, fun hy => ?_⟩, fun none => absurd hx (none x)⟩
  · rw [h] at hy
    cases hy
    exact hx
  · rw [h, unique y hy]

theorem Answers.of_error {α : Type} {answer : Except Error α} {fits : α → Prop} {message : String}
    (h : answer = .error (.argument message)) (none : ∀ x, ¬ fits x) : Answers answer fits := by
  refine ⟨fun x => ⟨fun hx => ?_, fun hx => absurd hx (none x)⟩, fun _ => ⟨message, h⟩⟩
  rw [h] at hx
  cases hx

/-- The readers of integers are right about a number. -/
structure ReadsInteger (a : Arguments) (index : Nat) (name : String) (num : Number) : Prop where
  optional : Answers (a.int? index name) fun found => ∃ n, found = some n ∧ num.IsInt64 n
  needed : Answers (a.int index name) num.IsInt64
  natural : Answers (a.nat index name) fun n => num.IsInt64 n

/-- An integer brought into the signed 64-bit range. -/
def clamped (n : Int) : Int := max Reading.int64Min (min Reading.int64Max n)

theorem clamped_of_le {n : Int} (hlo : Reading.int64Min ≤ n) (hhi : n ≤ Reading.int64Max) :
    clamped n = n := by
  rw [clamped, min_eq_right hhi, max_eq_right hlo]

theorem clamped_range (n : Int) :
    Reading.int64Min ≤ clamped n ∧ clamped n ≤ Reading.int64Max := by
  simp only [clamped, Reading.int64Min, Reading.int64Max]
  omega

/-- A whole binary64 number is brought into the range as the integer that it is. -/
theorem toIntBetween_whole {x : Double} {n : Int} (hn : x.value? = some (n : ℚ)) :
    x.toIntBetween Reading.int64Min Reading.int64Max = clamped n := by
  obtain ⟨-, dropped⟩ := Double.value?_eq_int_iff.mp hn
  cases x with
  | finite s m e =>
    rw [Double.toIntBetween, dropped, clamped]
    all_goals simp
  | infinite s => cases hn
  | nan => cases hn

variable {a : Arguments} {index : Nat} {name : String} {num : Number}

/-! ## The readers -/

/-- A number whose binary64 number is an integer is read as that integer, brought into the range. -/
theorem int?_whole (h : a.param? index name = some (.number num)) {n : Int}
    (hn : num.toDouble.value? = some (n : ℚ)) : a.int? index name = .ok (some (clamped n)) := by
  obtain ⟨whole, -⟩ := Double.value?_eq_int_iff.mp hn
  rw [int?, double?, h]
  dsimp only
  rw [if_pos whole, toIntBetween_whole hn]

/-- A number whose binary64 number is no integer is refused. -/
theorem int?_fraction (h : a.param? index name = some (.number num))
    (hn : ∀ n : Int, num.toDouble.value? ≠ some (n : ℚ)) :
    ∃ message, a.int? index name = .error (.argument message) := by
  have fraction : num.toDouble.isInteger ≠ true := by
    intro whole
    exact hn _ (Double.value?_eq_int_iff.mpr ⟨whole, rfl⟩)
  rw [int?, double?, h]
  dsimp only
  rw [if_neg fraction]
  exact ⟨_, rfl⟩

/-- All readers are right if a 64-bit integer is given. -/
theorem ReadsInteger.of_ok {n : Int} (h : a.int? index name = .ok (some n)) (hn : num.IsInt64 n) :
    a.ReadsInteger index name num := by
  have given : a.int index name = .ok n := by
    rw [int, h]
    rfl
  refine ⟨.of_ok h ⟨n, rfl, hn⟩ ?_, .of_ok given hn fun m hm => hm.unique hn, ?_⟩
  · rintro found ⟨m, rfl, hm⟩
    rw [hm.unique hn]
  · by_cases neg : n < 0
    · have refused : a.nat index name = .error (a.unfit name "non-negative" (.int n)) := by
        rw [nat, given]
        dsimp only
        rw [if_pos neg]
      refine .of_error refused fun m hm => ?_
      have := hm.unique hn
      omega
    · have count : a.nat index name = .ok n.toNat := by
        rw [nat, given]
        dsimp only
        rw [if_neg neg]
      have same : (n.toNat : Int) = n := Int.toNat_of_nonneg (by omega)
      refine .of_ok count (by rwa [same]) fun m hm => ?_
      have := hm.unique hn
      omega

/-- All readers are right if what is no 64-bit integer is refused. -/
theorem ReadsInteger.of_error {message : String}
    (h : a.int? index name = .error (.argument message)) (none : ∀ n, ¬ num.IsInt64 n) :
    a.ReadsInteger index name num := by
  have refused : a.int index name = .error (.argument message) := by
    rw [int, h]
    rfl
  have uncounted : a.nat index name = .error (.argument message) := by
    rw [nat, refused]
  refine ⟨.of_error h ?_, .of_error refused none, .of_error uncounted fun m => none m⟩
  rintro found ⟨n, -, hn⟩
  exact none n hn

/-- All readers are right about a number whose binary64 number is an integer exactly if that
integer, brought into the range, is the number. -/
theorem readsInteger_whole (h : a.param? index name = some (.number num)) {n : Int}
    (hn : num.toDouble.value? = some (n : ℚ)) :
    a.ReadsInteger index name num ↔ num.IsInt64 (clamped n) := by
  have given := int?_whole h hn
  constructor
  · intro reads
    obtain ⟨m, same, hm⟩ := (reads.optional.gives _).mp given
    cases same
    exact hm
  · exact ReadsInteger.of_ok given

/-- All readers are right about a binary64 number exactly if it is no integer beyond the range. -/
theorem readsInteger_real {x : Double} (h : a.param? index name = some (.number (.real x))) :
    a.ReadsInteger index name (.real x) ↔ (Number.real x).Kept := by
  by_cases whole : ∃ n : Int, x.value? = some (n : ℚ)
  · obtain ⟨n, hn⟩ := whole
    rw [readsInteger_whole h hn]
    constructor
    · intro kept m hm
      rw [Int.cast_inj.mp (Option.some_inj.mp (hm.symm.trans kept.1))]
      exact kept.2
    · intro kept
      obtain ⟨hlo, hhi⟩ := kept n hn
      rw [clamped_of_le hlo hhi]
      exact ⟨hn, hlo, hhi⟩
  · have fraction : ∀ n : Int, x.value? ≠ some (n : ℚ) := fun n hn => whole ⟨n, hn⟩
    obtain ⟨message, refused⟩ := int?_fraction h fraction
    exact iff_of_true (.of_error refused fun n hn => fraction n hn.1)
      fun n hn => absurd hn (fraction n)

/-- What an integer becomes as a binary64 number, brought into the range, is the integer itself
exactly if it has few bits or is the greatest one. -/
theorem clamped_rounded_iff {n : Int} (hlo : Reading.int64Min ≤ n) (hhi : n ≤ Reading.int64Max) :
    clamped (Double.signed (n < 0) (Double.rounded n.natAbs)) = n ↔
      n = Reading.int64Max ∨ ∃ m k : Nat, m < 2 ^ 53 ∧ n.natAbs = m * 2 ^ k := by
  rw [← Double.rounded_eq_self_iff]
  constructor
  · intro h
    by_cases top : n = Reading.int64Max
    · exact .inl top
    by_cases bottom : n = Reading.int64Min
    · exact .inr (by rw [bottom]; decide)
    · have same : Double.signed (n < 0) (Double.rounded n.natAbs) = n := by
        rw [clamped] at h
        omega
      simp only [Double.signed, decide_eq_true_eq] at same
      split at same <;> exact .inr (by omega)
  · rintro (rfl | h)
    · decide
    · have same : Double.signed (n < 0) n.natAbs = n := by
        simp only [Double.signed, decide_eq_true_eq]
        omega
      rw [h, same, clamped_of_le hlo hhi]

/-- All readers are right about an integer exactly if it is kept. -/
theorem readsInteger_integer {n : Int} (h : a.param? index name = some (.number (.integer n)))
    (hlo : Reading.int64Min ≤ n) (hhi : n ≤ Reading.nat64Max) :
    a.ReadsInteger index name (.integer n) ↔ (Number.integer n).Kept := by
  have small : n.natAbs < 2 ^ 64 := by
    simp only [Reading.int64Min, Reading.nat64Max] at hlo hhi
    omega
  rw [readsInteger_whole h (Double.value?_ofInt small), Number.isInt64_integer, Number.Kept]
  have range := clamped_range (Double.signed (n < 0) (Double.rounded n.natAbs))
  constructor
  · rintro ⟨same, -⟩
    rw [← same] at range
    exact ⟨range.2, (clamped_rounded_iff hlo range.2).mp same.symm⟩
  · rintro ⟨top, kept⟩
    exact ⟨((clamped_rounded_iff hlo top).mpr kept).symm, range⟩

/-- The readers of integers are right about a number exactly if it is kept. -/
theorem readsInteger_iff_kept (h : a.param? index name = some (.number num))
    (hnum : num.InDocuments) : a.ReadsInteger index name num ↔ num.Kept := by
  cases num with
  | integer n => exact readsInteger_integer h hnum.1 hnum.2
  | real x => exact readsInteger_real h

/-- An amount above `2 ^ 53` whose last bit is zero. -/
theorem readsInteger_iff_kept_even :
    let a : Arguments := ⟨"scroll_browser", [.int (-9007199254740994)]⟩
    let num : Number := .integer (-9007199254740994)
    a.param? 0 "amount" = some (.number num) ∧ num.InDocuments ∧ a.ReadsInteger 0 "amount" num := by
  intro a num
  have held : a.param? 0 "amount" = some (.number num) := rfl
  have document : num.InDocuments := ⟨by decide, by decide⟩
  have kept : num.Kept := ⟨by decide, .inr ⟨4503599627370497, 1, by decide, by decide⟩⟩
  exact ⟨held, document, (readsInteger_iff_kept held document).mpr kept⟩

/-- The last bit of an odd amount above `2 ^ 53` is lost, and an amount beyond the range is not
refused. -/
theorem odd_amount_changed :
    let odd : Arguments := ⟨"scroll_browser", [.int 9007199254740993]⟩
    let beyond : Arguments := ⟨"scroll_browser", [.int 9223372036854775808]⟩
    (Number.integer 9007199254740993).IsInt64 9007199254740993 ∧
      odd.int 0 "amount" = .ok 9007199254740992 ∧
      ¬ odd.ReadsInteger 0 "amount" (.integer 9007199254740993) ∧
      (∀ n, ¬ (Number.integer 9223372036854775808).IsInt64 n) ∧
      beyond.int 0 "amount" = .ok 9223372036854775807 := by
  intro odd beyond
  have given : odd.int 0 "amount" = .ok 9007199254740992 := rfl
  refine ⟨Number.isInt64_integer.mpr (by decide), given, fun reads => ?_, fun n hn => ?_, rfl⟩
  · have same := Number.isInt64_integer.mp ((reads.needed.gives _).mp given)
    exact absurd same.1 (by decide)
  · obtain ⟨rfl, -, hhi⟩ := Number.isInt64_integer.mp hn
    exact absurd hhi (by decide)

end Arguments

end PageScript
