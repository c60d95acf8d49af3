import PageScript.Library.Chance
import PageScript.Proofs.Literal.Integer
import PageScript.Proofs.Operation.Integers

/-!
# Integer parameters

Functions of chance and of texts take bounds, steps, counts and lengths as integers.  A value is
exactly an integer (`Value.IsInt64`) if it is a number with that value, or a text that spells it in
decimal digits between blanks, and if 64 bits hold it.

The reader of parameters gives such an integer as it is, and refuses a fraction and every other
text.  What it does not refuse is a whole number beyond the range: that becomes the nearest end of
the range.  So the reader is right about a value exactly if the value is no such number
(`Library.int_answers_iff`).
-/

namespace PageScript

/-- The value is exactly a 64-bit integer. -/
inductive Value.IsInt64 : Value → Int → Prop where
  | number {num : Number} {n : Int} (h : num.IsInt64 n) : IsInt64 (.number num) n
  | text {s : String} {n : Int} (h : Reading.Decimal n (Text.trim s.toList))
      (hlo : Reading.int64Min ≤ n) (hhi : n ≤ Reading.int64Max) : IsInt64 (.text s) n

/-- The value is a whole number that 64 bits do not hold. -/
def Value.IsBeyondInt64 (v : Value) : Prop :=
  ∃ (num : Number) (n : Int), v = .number num ∧ num.value? = some (n : ℚ) ∧
    ¬ (Reading.int64Min ≤ n ∧ n ≤ Reading.int64Max)

theorem Value.isInt64_int {n : Int} (hlo : Reading.int64Min ≤ n) (hhi : n ≤ Reading.int64Max) :
    (Value.int n).IsInt64 n :=
  .number (Number.isInt64_integer.mpr ⟨rfl, hlo, hhi⟩)

namespace Library

open Arguments (Answers clamped)

variable {function : String} {v : Value} {n : Int}

/-! ## The reader -/

theorem int_of_some (h : int? v = some n) : int function v = .ok n := by
  rw [int, h]

theorem int_of_none (h : int? v = none) : ∃ message, int function v = .error (.argument message) := by
  rw [int, h]
  exact ⟨_, rfl⟩

/-- A whole binary64 number is read as the integer that it is, brought into the range. -/
theorem int?_whole {x : Double} (hn : x.value? = some (n : ℚ)) :
    int? (.number (.real x)) = some (clamped n) := by
  obtain ⟨whole, -⟩ := Double.value?_eq_int_iff.mp hn
  rw [int?, if_pos whole, Arguments.toIntBetween_whole hn]

/-- What is exactly an integer is read as that integer. -/
theorem int?_exact (h : v.IsInt64 n) : int? v = some n := by
  cases h with
  | @number num _ h =>
    obtain ⟨value, hlo, hhi⟩ := h
    cases num with
    | integer m =>
      obtain rfl : m = n := Int.cast_inj.mp (Option.some_inj.mp value)
      rw [int?, if_pos ⟨hlo, hhi⟩]
    | real x => rw [int?_whole value, Arguments.clamped_of_le hlo hhi]
  | text h hlo hhi =>
    rw [int?]
    exact Reading.int64?_eq_some_iff.mpr ⟨h, hlo, hhi⟩

/-- What is read is exactly an integer, or a whole number beyond the range. -/
theorem exact_or_beyond (h : int? v = some n) : v.IsInt64 n ∨ v.IsBeyondInt64 := by
  unfold int? at h
  split at h
  · next m =>
    split at h
    · next inside =>
      cases h
      exact .inl (Value.isInt64_int inside.1 inside.2)
    · next outside => exact .inr ⟨_, m, rfl, rfl, outside⟩
  · next x =>
    split at h
    · next whole =>
      cases h
      have value : x.value? = some (x.truncate : ℚ) := Double.value?_eq_int_iff.mpr ⟨whole, rfl⟩
      by_cases inside : Reading.int64Min ≤ x.truncate ∧ x.truncate ≤ Reading.int64Max
      · rw [Arguments.toIntBetween_whole value, Arguments.clamped_of_le inside.1 inside.2]
        exact .inl (.number ⟨value, inside⟩)
      · exact .inr ⟨_, _, rfl, value, inside⟩
    · cases h
  · obtain ⟨spelled, hlo, hhi⟩ := Reading.int64?_eq_some_iff.mp h
    exact .inl (.text spelled hlo hhi)
  · cases h

/-- A whole number beyond the range is not refused, and it is exactly no 64-bit integer. -/
theorem int?_beyond (h : v.IsBeyondInt64) : (∃ m, int? v = some m) ∧ ∀ n, ¬ v.IsInt64 n := by
  obtain ⟨num, n, rfl, value, outside⟩ := h
  constructor
  · cases num with
    | integer m =>
      obtain rfl : m = n := Int.cast_inj.mp (Option.some_inj.mp value)
      exact ⟨_, if_neg outside⟩
    | real x => exact ⟨_, int?_whole value⟩
  · rintro m ⟨same, inside⟩
    obtain rfl : m = n := Int.cast_inj.mp (Option.some_inj.mp (same.symm.trans value))
    exact outside inside

/-! ## Right readings -/

/-- The reader gives what a value exactly is and refuses what is no 64-bit integer, unless the value
is a whole number beyond the range. -/
theorem int_answers_iff (function : String) (v : Value) :
    Answers (int function v) v.IsInt64 ↔ ¬ v.IsBeyondInt64 := by
  constructor
  · rintro answers beyond
    obtain ⟨⟨m, read⟩, none⟩ := int?_beyond beyond
    exact none m ((answers.gives m).mp (int_of_some read))
  · intro within
    cases read : int? v with
    | some n =>
      have hexact : v.IsInt64 n := (exact_or_beyond read).resolve_right within
      refine .of_ok (int_of_some read) hexact fun m hm => ?_
      exact Option.some_inj.mp ((int?_exact hm).symm.trans read)
    | none =>
      obtain ⟨message, refused⟩ : ∃ message, int function v = .error (.argument message) :=
        int_of_none read
      refine .of_error refused fun n hn => ?_
      rw [int?_exact hn] at read
      cases read

/-- The least integer above the range, as documents hold it and as the literal `9223372036854775808`
is read, is taken for the greatest 64-bit integer, so a drawn integer between that one and this one
is not refused. -/
theorem beyond_taken_for_greatest :
    let above : Value := .int 9223372036854775808
    let literal : Value := .number (.real (.finite false 4503599627370496 11))
    Literal.parse "9223372036854775808" = .ok literal ∧
      (∀ v ∈ [above, literal], (∀ n, ¬ v.IsInt64 n) ∧
        int "randint" v = .ok Reading.int64Max ∧
        inclusive [.int Reading.int64Max, v] = .ok (Reading.int64Max, Reading.int64Max)) := by
  intro above literal
  have outside : ¬ (Reading.int64Min ≤ 9223372036854775808 ∧
      9223372036854775808 ≤ Reading.int64Max) := by decide
  have beyond : ∀ v ∈ [above, literal], v.IsBeyondInt64 := by
    intro v hv
    simp only [List.mem_cons, List.not_mem_nil, or_false] at hv
    rcases hv with rfl | rfl
    · exact ⟨_, 9223372036854775808, rfl, rfl, outside⟩
    · have value : (Double.finite false 4503599627370496 11).value? =
          some ((9223372036854775808 : Int) : ℚ) := Double.value?_eq_int_iff.mpr (by decide)
      exact ⟨_, _, rfl, value, outside⟩
  refine ⟨rfl, fun v hv => ⟨(int?_beyond (beyond v hv)).2, ?_⟩⟩
  simp only [List.mem_cons, List.not_mem_nil, or_false] at hv
  rcases hv with rfl | rfl <;> exact ⟨rfl, rfl⟩

end Library

end PageScript
