import Mathlib.Algebra.Field.Rat
import Mathlib.Data.Rat.Cast.CharZero
import Mathlib.Tactic.FieldSimp
import Mathlib.Tactic.Positivity
import Mathlib.Tactic.Ring
import PageScript.Value.Basic

/-!
# Exact values of numbers

Every finite number has an exact value among the rationals (`Double.value?`).  A number has no
fractional part if its value is an integer, and dropping the fraction then keeps the value
(`Double.value?_eq_int_iff`).

Between two powers of two the numbers of the format are the multiples of one power, which for large
numbers is more than one (`Double.spacing`).  An integer becomes the multiple that is nearest to it
(`Double.rounded`, `Double.value?_ofInt`).  That is the integer itself exactly if it has at most 53
significant bits (`Double.rounded_eq_self_iff`).
-/

namespace PageScript

namespace Double

/-! ## Values -/

/-- A natural number with a sign. -/
def signed (negative : Bool) (n : Nat) : Int := if negative then -(n : Int) else n

/-- The exact value of a finite number. -/
def value? : Double → Option ℚ
  | .finite s m e => some (signed s m * 2 ^ e)
  | _ => none

theorem signed_mul (s : Bool) (m n : Nat) : signed s (m * n) = signed s m * n := by
  cases s <;> simp [signed]

/-- A quotient is an integer exactly if nothing remains. -/
theorem signed_eq_mul_iff {s : Bool} {m d : Nat} {n : Int} (hd : 0 < d) :
    signed s m = n * d ↔ m % d = 0 ∧ signed s (m / d) = n := by
  constructor
  · intro h
    have divides : (d : Int) ∣ m := by
      cases s with
      | false => exact ⟨n, by rw [mul_comm]; exact h⟩
      | true => exact ⟨-n, by rw [signed, if_pos rfl] at h; rw [mul_neg, mul_comm, ← h, neg_neg]⟩
    obtain ⟨q, rfl⟩ : d ∣ m := Int.natCast_dvd_natCast.mp divides
    refine ⟨Nat.mul_mod_right d q, ?_⟩
    rw [Nat.mul_div_cancel_left q hd]
    rw [mul_comm, signed_mul] at h
    exact mul_right_cancel₀ (by omega) h
  · rintro ⟨hm, rfl⟩
    rw [← signed_mul, Nat.div_mul_cancel (Nat.dvd_of_mod_eq_zero hm)]

/-- The value is an integer exactly if the number has no fractional part and is that integer when
the fraction is dropped. -/
theorem value?_eq_int_iff {x : Double} {n : Int} :
    x.value? = some (n : ℚ) ↔ x.isInteger = true ∧ x.truncate = n := by
  cases x with
  | infinite s => simp [value?, isInteger]
  | nan => simp [value?, isInteger]
  | finite s m e =>
    rw [value?, Option.some_inj]
    cases e with
    | ofNat k =>
      have whole : (signed s m : ℚ) * 2 ^ Int.ofNat k = (signed s (m <<< k) : Int) := by
        rw [Int.ofNat_eq_natCast, zpow_natCast, Nat.shiftLeft_eq, signed_mul]
        push_cast
        rfl
      rw [whole, Int.cast_inj]
      exact (and_iff_right rfl).symm
    | negSucc k =>
      have pos : (0 : ℚ) < 2 ^ (k + 1) := by positivity
      rw [zpow_negSucc, ← div_eq_mul_inv, div_eq_iff pos.ne']
      have cross : ((signed s m : Int) : ℚ) = n * 2 ^ (k + 1) ↔
          signed s m = n * ((2 ^ (k + 1) : Nat) : Int) := by
        rw [← Int.cast_inj (α := ℚ)]
        push_cast
        rfl
      rw [cross, signed_eq_mul_iff (Nat.two_pow_pos (k + 1)), isInteger, decide_eq_true_iff,
        truncate, ← Nat.shiftRight_eq_div_pow]
      rfl

/-! ## The nearest natural number -/

theorem nearestEven_le (num den : Nat) : nearestEven num den ≤ num / den + 1 := by
  simp only [nearestEven]
  split_ifs <;> omega

theorem nearestEven_of_dvd {num den : Nat} (hden : 0 < den) (h : den ∣ num) :
    nearestEven num den = num / den := by
  simp only [nearestEven]
  rw [Nat.mod_eq_zero_of_dvd h, if_pos (by omega)]

/-! ## Integers -/

/-- The exponent of the distance between the numbers of the format around a natural number. -/
def spacing (n : Nat) : Nat := n.log2 - 52

/-- The multiple of the spacing that is nearest to a natural number. -/
def rounded (n : Nat) : Nat := nearestEven n (2 ^ spacing n) * 2 ^ spacing n

theorem div_spacing_lt (n : Nat) : n / 2 ^ spacing n < 2 ^ 53 := by
  rw [Nat.div_lt_iff_lt_mul (Nat.two_pow_pos _), ← Nat.pow_add]
  have below : n < 2 ^ (n.log2 + 1) := Nat.lt_log2_self
  have wide : 2 ^ (n.log2 + 1) ≤ 2 ^ (53 + spacing n) :=
    Nat.pow_le_pow_right (by decide) (by rw [spacing]; omega)
  omega

theorem rounded_of_dvd {n : Nat} (h : 2 ^ spacing n ∣ n) : rounded n = n := by
  rw [rounded, nearestEven_of_dvd (Nat.two_pow_pos _) h, Nat.div_mul_cancel h]

/-- A natural number stays as it is exactly if it has at most 53 significant bits. -/
theorem rounded_eq_self_iff {n : Nat} : rounded n = n ↔ ∃ m k, m < 2 ^ 53 ∧ n = m * 2 ^ k := by
  constructor
  · intro h
    have most : nearestEven n (2 ^ spacing n) ≤ 2 ^ 53 := by
      have := nearestEven_le n (2 ^ spacing n)
      have := div_spacing_lt n
      omega
    rcases Nat.lt_or_eq_of_le most with hlt | heq
    · exact ⟨_, _, hlt, h.symm⟩
    · refine ⟨1, 53 + spacing n, by decide, ?_⟩
      rw [one_mul, Nat.pow_add, ← heq]
      exact h.symm
  · rintro ⟨m, k, hm, rfl⟩
    refine rounded_of_dvd ?_
    rcases Nat.eq_zero_or_pos m with rfl | hpos
    · rw [zero_mul]
      exact Nat.dvd_zero _
    -- a mantissa below `2 ^ 53` leaves no bit of the number below its spacing
    · have bound : (m * 2 ^ k).log2 < 53 + k := by
        rw [Nat.log2_lt (by positivity), Nat.pow_add]
        exact Nat.mul_lt_mul_of_pos_right hm (Nat.two_pow_pos k)
      have fine : spacing (m * 2 ^ k) ≤ k := by
        rw [spacing]
        omega
      exact (Nat.pow_dvd_pow 2 fine).trans (Nat.dvd_mul_left _ m)

/-- A mantissa that was rounded up to `2 ^ 53` is halved, which keeps the value. -/
theorem value?_carry (s : Bool) (m : Nat) {e : Int} (he : e < greatestExponent) :
    (let (m', e') := if m = Nat.pow 2 53 then (Nat.pow 2 52, e + 1) else (m, e)
      if e' > greatestExponent then Double.infinite s else .finite s m' e').value?
      = some ((signed s m : ℚ) * 2 ^ e) := by
  by_cases hm : m = Nat.pow 2 53
  · have halved : signed s (Nat.pow 2 53) = signed s (Nat.pow 2 52) * (2 : Nat) :=
      signed_mul s (Nat.pow 2 52) 2
    rw [if_pos hm]
    dsimp only
    rw [if_neg (by omega), value?, hm, halved, zpow_add_one₀ (by decide)]
    push_cast
    ring_nf
  · rw [if_neg hm]
    dsimp only
    rw [if_neg (by omega), value?]

theorem floorLog2_one {n : Nat} (hn : n ≠ 0) : floorLog2 n 1 = n.log2 := by
  have least : Nat.log2 1 = 0 := by decide
  rw [floorLog2, least, Int.ofNat_zero, Int.sub_zero]
  dsimp only [scale]
  have below : 1 <<< n.log2 ≤ n := by
    rw [Nat.shiftLeft_eq, one_mul]
    exact Nat.log2_self_le hn
  rw [if_pos below]

/-- A natural number below `2 ^ 64` becomes the nearest multiple of its spacing. -/
theorem value?_round {n : Nat} (hn : n < 2 ^ 64) (s : Bool) :
    (round s n 1).value? = some ((signed s (rounded n) : Int) : ℚ) := by
  by_cases hzero : n = 0
  · subst hzero
    cases s <;> simp [round, zero, value?, signed, rounded, spacing, nearestEven]
  have small : n.log2 < 64 := (Nat.log2_lt hzero).mpr hn
  rw [round, if_neg hzero, floorLog2_one hzero]
  have top : max ((n.log2 : Int) - 52) leastExponent = n.log2 - 52 := by
    rw [leastExponent]
    omega
  rw [top]
  dsimp only
  rw [value?_carry s _ (by rw [greatestExponent]; omega), rounded, signed_mul]
  by_cases hlog : 52 ≤ n.log2
  · have coarse : (n.log2 : Int) - 52 = Int.ofNat (spacing n) := by
      rw [spacing, Int.ofNat_eq_natCast]
      omega
    rw [coarse, scale, Nat.shiftLeft_eq, one_mul, Int.ofNat_eq_natCast, zpow_natCast]
    push_cast
    rfl
  -- below `2 ^ 53` the mantissa is the number itself, shifted up
  · obtain ⟨k, hk⟩ : ∃ k, n.log2 + (k + 1) = 52 := ⟨51 - n.log2, by omega⟩
    have fine : (n.log2 : Int) - 52 = Int.negSucc k := by omega
    have one : spacing n = 0 := by
      rw [spacing]
      omega
    have whole (a : Nat) : nearestEven a 1 = a := by
      rw [nearestEven_of_dvd (by decide) (one_dvd a), Nat.div_one]
    rw [fine, scale, whole, one, pow_zero, whole, Nat.shiftLeft_eq, signed_mul, zpow_negSucc]
    push_cast
    field_simp

/-- An integer of less than 65 bits becomes the nearest multiple of its spacing. -/
theorem value?_ofInt {n : Int} (hn : n.natAbs < 2 ^ 64) :
    (ofInt n).value? = some ((signed (n < 0) (rounded n.natAbs) : Int) : ℚ) :=
  value?_round hn _

end Double

end PageScript
