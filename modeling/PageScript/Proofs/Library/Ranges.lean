import Mathlib.Data.Set.Function
import PageScript.Proofs.Library.Integers

/-!
# Ranges of integers

A range of 64-bit integers with a step holds the integers from its start, below its end, whose
distance from the start the step divides (`IntRange.Holds`).  Its ends may be almost `2 ^ 64` apart,
so the number of its values and the value at a place are computed in 128 bits.

Nothing that is computed for such a range overflows (`IntRange.NoOverflow`).  So the number of its
values is the distance divided by the step and rounded up (`IntRange.lt_count_iff`), and the places
below that number are one to one the values of the range.  `randrange_draws` says so of the function
that draws one.
-/

namespace PageScript

namespace Library

namespace IntRange

/-- The ends and the step are 64-bit integers. -/
structure InInt64 (r : IntRange) : Prop where
  start : Reading.int64Min ≤ r.start ∧ r.start ≤ Reading.int64Max
  stop : Reading.int64Min ≤ r.stop ∧ r.stop ≤ Reading.int64Max
  step : Reading.int64Min ≤ r.step ∧ r.step ≤ Reading.int64Max

/-- The integer is a value of the range. -/
def Holds (r : IntRange) (v : Int) : Prop := r.start ≤ v ∧ v < r.stop ∧ r.step ∣ v - r.start

/-- No operation on 128 bits overflows, neither those that count the values nor, for a place of the
range, those that find the value there. -/
structure NoOverflow (r : IntRange) : Prop where
  distance : (wide r.stop).ssubOverflow (wide r.start) = false
  extended : r.span.saddOverflow (wide r.step) = false
  shortened : (r.span + wide r.step).ssubOverflow 1 = false
  divided : (r.span + wide r.step - 1).sdivOverflow (wide r.step) = false
  spread : ∀ k < r.count, (wide k).smulOverflow (wide r.step) = false
  placed : ∀ k < r.count, (wide r.start).saddOverflow (wide k * wide r.step) = false

end IntRange

/-! ## Integers in 128 bits -/

theorem toInt_wide {n : Int} (hlo : -2 ^ 127 ≤ n) (hhi : n < 2 ^ 127) : (wide n).toInt = n :=
  BitVec.toInt_ofInt_eq_self (by decide) hlo hhi

/-- The test for an overflow fails if 128 bits hold the exact result. -/
theorem not_overflow {n : Int} (hlo : -2 ^ 127 ≤ n) (hhi : n < 2 ^ 127) :
    (decide (2 ^ 127 ≤ n) || decide (n < -2 ^ 127)) = false := by
  rw [Bool.or_eq_false_iff, decide_eq_false_iff_not, decide_eq_false_iff_not]
  exact ⟨not_le.mpr hhi, not_lt.mpr hlo⟩

namespace IntRange

variable {r : IntRange} {k : Nat} {v : Int}

/-! ## The number of values -/

theorem InInt64.toInt_wide (h : r.InInt64) : (wide r.start).toInt = r.start ∧
    (wide r.stop).toInt = r.stop ∧ (wide r.step).toInt = r.step := by
  obtain ⟨hstart, hstop, hstep⟩ := h
  simp only [Reading.int64Min, Reading.int64Max] at hstart hstop hstep
  exact ⟨Library.toInt_wide (by omega) (by omega), Library.toInt_wide (by omega) (by omega),
    Library.toInt_wide (by omega) (by omega)⟩

theorem InInt64.distance (h : r.InInt64) : (wide r.stop).ssubOverflow (wide r.start) = false := by
  obtain ⟨start, stop, -⟩ := h.toInt_wide
  obtain ⟨hstart, hstop, -⟩ := h
  simp only [Reading.int64Min, Reading.int64Max] at hstart hstop
  exact not_overflow (by omega) (by omega)

theorem InInt64.toInt_span (h : r.InInt64) : r.span.toInt = r.stop - r.start := by
  obtain ⟨start, stop, -⟩ := h.toInt_wide
  rw [span, BitVec.toInt_sub_of_not_ssubOverflow (ne_true_of_eq_false h.distance), start, stop]

theorem InInt64.extended (h : r.InInt64) : r.span.saddOverflow (wide r.step) = false := by
  obtain ⟨-, -, step⟩ := h.toInt_wide
  have span := h.toInt_span
  obtain ⟨hstart, hstop, hstep⟩ := h
  simp only [Reading.int64Min, Reading.int64Max] at hstart hstop hstep
  exact not_overflow (by omega) (by omega)

theorem InInt64.shortened (h : r.InInt64) : (r.span + wide r.step).ssubOverflow 1 = false := by
  obtain ⟨-, -, step⟩ := h.toInt_wide
  have span := h.toInt_span
  have sum := BitVec.toInt_add_of_not_saddOverflow (ne_true_of_eq_false h.extended)
  have one : (1 : BitVec 128).toInt = 1 := by decide
  obtain ⟨hstart, hstop, hstep⟩ := h
  simp only [Reading.int64Min, Reading.int64Max] at hstart hstop hstep
  exact not_overflow (by omega) (by omega)

/-- What is divided by the step: the distance, lengthened by one less than the step. -/
theorem InInt64.toInt_dividend (h : r.InInt64) :
    (r.span + wide r.step - 1).toInt = r.stop - r.start + r.step - 1 := by
  obtain ⟨-, -, step⟩ := h.toInt_wide
  have one : (1 : BitVec 128).toInt = 1 := by decide
  rw [BitVec.toInt_sub_of_not_ssubOverflow (ne_true_of_eq_false h.shortened),
    BitVec.toInt_add_of_not_saddOverflow (ne_true_of_eq_false h.extended), h.toInt_span, step, one]

section

variable (h : r.InInt64) (hstep : 0 < r.step) (hstop : r.start < r.stop)

include h hstep hstop

theorem divided : (r.span + wide r.step - 1).sdivOverflow (wide r.step) = false := by
  obtain ⟨-, -, step⟩ := h.toInt_wide
  have dividend := h.toInt_dividend
  have low : 0 ≤ (r.stop - r.start + r.step - 1) / r.step := Int.ediv_nonneg (by omega) hstep.le
  have high := Int.ediv_le_self r.step (show 0 ≤ r.stop - r.start + r.step - 1 by omega)
  obtain ⟨hstart, hend, hwidth⟩ := h
  simp only [Reading.int64Min, Reading.int64Max] at hstart hend hwidth
  refine not_overflow ?_ ?_ <;> rw [dividend, step] <;> omega

/-- The number of values is the distance divided by the step, rounded up. -/
theorem count_eq : r.count = ((r.stop - r.start + r.step - 1) / r.step).toNat := by
  obtain ⟨-, -, step⟩ := h.toInt_wide
  have positive : wide r.step ≠ -1#128 := by
    intro heq
    rw [heq] at step
    have negative : (-1#128 : BitVec 128).toInt = -1 := by decide
    omega
  rw [count, BitVec.toInt_sdiv_of_ne_or_ne _ _ (.inr positive), h.toInt_dividend, step,
    Int.tdiv_eq_ediv_of_nonneg (by omega)]

/-- A place is one of the range exactly if the value there is below the end. -/
theorem lt_count_iff : k < r.count ↔ k * r.step < r.stop - r.start := by
  rw [count_eq h hstep hstop, Int.lt_toNat, ← Int.add_one_le_iff, Int.le_ediv_iff_mul_le hstep,
    add_mul, one_mul]
  omega

theorem count_pos : 1 ≤ r.count := by
  rw [Nat.one_le_iff_ne_zero, ← Nat.pos_iff_ne_zero, lt_count_iff h hstep hstop]
  omega

/-! ## The values -/

/-- At a place of the range nothing is larger than the distance between the ends. -/
theorem place_bounds (hk : k < r.count) :
    (k : Int) ≤ k * r.step ∧ 0 ≤ k * r.step ∧ k * r.step < r.stop - r.start := by
  have wide : (k : Int) ≤ k * r.step := le_mul_of_one_le_right (by omega) hstep
  exact ⟨wide, by omega, (lt_count_iff h hstep hstop).mp hk⟩

theorem spread (hk : k < r.count) : (wide k).smulOverflow (wide r.step) = false ∧
    (wide k * wide r.step).toInt = k * r.step := by
  obtain ⟨-, -, step⟩ := h.toInt_wide
  obtain ⟨hle, hlow, hhigh⟩ := place_bounds h hstep hstop hk
  obtain ⟨hstart, hend, -⟩ := h
  simp only [Reading.int64Min, Reading.int64Max] at hstart hend
  have place : (wide k).toInt = k := toInt_wide (by omega) (by omega)
  have within : (wide k).smulOverflow (wide r.step) = false :=
    not_overflow (by rw [place, step]; omega) (by rw [place, step]; omega)
  refine ⟨within, ?_⟩
  rw [BitVec.toInt_mul_of_not_smulOverflow (ne_true_of_eq_false within), place, step]

theorem placed (hk : k < r.count) :
    (wide r.start).saddOverflow (wide k * wide r.step) = false ∧
      r.value k = r.start + k * r.step := by
  obtain ⟨start, -, -⟩ := h.toInt_wide
  obtain ⟨-, product⟩ := spread h hstep hstop hk
  obtain ⟨-, hlow, hhigh⟩ := place_bounds h hstep hstop hk
  obtain ⟨hstart, hend, -⟩ := h
  simp only [Reading.int64Min, Reading.int64Max] at hstart hend
  have within : (wide r.start).saddOverflow (wide k * wide r.step) = false :=
    not_overflow (by omega) (by omega)
  refine ⟨within, ?_⟩
  rw [value, BitVec.toInt_add_of_not_saddOverflow (ne_true_of_eq_false within), start, product]

theorem noOverflow : r.NoOverflow where
  distance := h.distance
  extended := h.extended
  shortened := h.shortened
  divided := divided h hstep hstop
  spread _ hk := (spread h hstep hstop hk).1
  placed _ hk := (placed h hstep hstop hk).1

/-- The places of the range are one to one its values. -/
theorem value_bijOn : Set.BijOn r.value {k | k < r.count} {v | r.Holds v} := by
  have value {k : Nat} (hk : k < r.count) : r.value k = r.start + k * r.step :=
    (placed h hstep hstop hk).2
  refine ⟨fun k hk => ?_, fun j hj k hk same => ?_, ?_⟩
  · obtain ⟨-, hlow, hhigh⟩ := place_bounds h hstep hstop hk
    rw [Set.mem_ofPred_eq, value hk]
    exact ⟨by omega, by omega, k, by ring⟩
  · rw [value hj, value hk, add_right_inj] at same
    exact Int.natCast_inj.mp (mul_right_cancel₀ hstep.ne' same)
  · rintro v ⟨hfrom, hbelow, q, hq⟩
    have nonneg : 0 ≤ q := nonneg_of_mul_nonneg_right (by rw [← hq]; omega) hstep
    obtain ⟨k, rfl⟩ := Int.eq_ofNat_of_zero_le nonneg
    have distance : (k : Int) * r.step = v - r.start := by rw [mul_comm, ← hq]
    have hk : k < r.count := (lt_count_iff h hstep hstop).mpr (by omega)
    exact ⟨k, hk, by rw [value hk]; omega⟩

end

/-- The values lie between the ends, so 64 bits hold them. -/
theorem Holds.in_int64 (h : r.InInt64) (hv : r.Holds v) :
    Reading.int64Min ≤ v ∧ v ≤ Reading.int64Max :=
  ⟨h.start.1.trans hv.1, hv.2.1.le.trans h.stop.2⟩

end IntRange

/-! ## Drawing a value -/

theorem range_three {r : IntRange} (h : r.InInt64) :
    range [.int r.start, .int r.stop, .int r.step] = .ok r := by
  have whole {n : Int} (hn : Reading.int64Min ≤ n ∧ n ≤ Reading.int64Max) :
      int "randrange" (.int n) = .ok n :=
    int_of_some (int?_exact (Value.isInt64_int hn.1 hn.2))
  show (int "randrange" (.int r.start) >>= fun _ => int "randrange" (.int r.stop) >>= fun _ =>
    int "randrange" (.int r.step) >>= fun _ => _) = _
  rw [whole h.start, whole h.stop, whole h.step]
  rfl

theorem randrange_empty {r : IntRange} {args : List Value} (hargs : range args = .ok r)
    (hempty : r.step ≤ 0 ∨ r.stop ≤ r.start) :
    ∃ message, ∀ s, (randrange args).run s = (.error (.argument message), s) := by
  have empty : r.isEmpty = true := by simpa [IntRange.isEmpty] using hempty
  have refused : ∃ message, stepped args = .error (.argument message) := by
    rw [stepped, hargs]
    exact ⟨_, if_pos empty⟩
  obtain ⟨message, refused⟩ := refused
  refine ⟨message, fun s => ?_⟩
  rw [randrange, refused]
  rfl

theorem randrange_held {r : IntRange} {args : List Value} (h : r.InInt64)
    (hargs : range args = .ok r) (hstep : 0 < r.step) (hstop : r.start < r.stop)
    (s : Surroundings) :
    (randrange args).run s = (.ok (.int (r.value (Surroundings.draw r.count s).1)),
      (Surroundings.draw r.count s).2) := by
  have held : r.isEmpty = false := by simp [IntRange.isEmpty, hstep, hstop]
  have taken : stepped args = .ok r := by
    rw [stepped, hargs]
    exact if_neg (by simp [held])
  have place : (Surroundings.draw r.count s).1 < r.count :=
    Nat.mod_lt _ (IntRange.count_pos h hstep hstop)
  have fits := IntRange.Holds.in_int64 h ((IntRange.value_bijOn h hstep hstop).mapsTo place)
  rw [randrange, taken]
  exact congrArg (fun a : Attempt Value => a.run (Surroundings.draw r.count s).2) (if_pos fits)

/-- Whatever 64-bit integers a range is given by, the function refuses it if its step is not
positive or its start not below its end.  Otherwise nothing overflows, there is a value, the places
that may be drawn are one to one the values of the range, 64 bits hold all of them, and the function
gives the value at the place that is drawn. -/
theorem randrange_draws {r : IntRange} (h : r.InInt64) :
    range [.int r.start, .int r.stop, .int r.step] = .ok r ∧
    ∀ args, range args = .ok r →
      (r.step ≤ 0 ∨ r.stop ≤ r.start →
        ∃ message, ∀ s, (randrange args).run s = (.error (.argument message), s)) ∧
      (0 < r.step → r.start < r.stop →
        r.NoOverflow ∧ 1 ≤ r.count ∧ Set.BijOn r.value {k | k < r.count} {v | r.Holds v} ∧
        (∀ v, r.Holds v → Reading.int64Min ≤ v ∧ v ≤ Reading.int64Max) ∧
        ∀ s, (randrange args).run s = (.ok (.int (r.value (Surroundings.draw r.count s).1)),
          (Surroundings.draw r.count s).2)) := by
  refine ⟨range_three h, fun args hargs => ⟨randrange_empty hargs, fun hstep hstop => ?_⟩⟩
  exact ⟨IntRange.noOverflow h hstep hstop, IntRange.count_pos h hstep hstop,
    IntRange.value_bijOn h hstep hstop, fun v hv => hv.in_int64 h,
    randrange_held h hargs hstep hstop⟩

/-- The widest range with the widest step that leaves a last partial one. -/
theorem randrange_draws_widest :
    let r : IntRange := ⟨Reading.int64Min, Reading.int64Max, Reading.int64Max⟩
    let args : List Value := [.int r.start, .int r.stop, .int r.step]
    r.InInt64 ∧ range args = .ok r ∧ 0 < r.step ∧ r.start < r.stop ∧ r.count = 3 ∧
      r.NoOverflow ∧ Set.BijOn r.value {k | k < 3} {v | r.Holds v} := by
  intro r args
  have bits : r.InInt64 := ⟨by decide, by decide, by decide⟩
  have step : 0 < r.step := by decide
  have stop : r.start < r.stop := by decide
  have count : r.count = 3 := by decide +kernel
  obtain ⟨given, draws⟩ := randrange_draws bits
  obtain ⟨fits, -, places, -⟩ := (draws args given).2 step stop
  rw [count] at places
  exact ⟨bits, given, step, stop, count, fits, places⟩

end Library

end PageScript
