import PageScript.Number.Double

/-!
# Shortest decimal digits

The decimal digits that a binary64 number is written with: as few as read back to the number, and
among those the nearest.  A number stands for the interval of reals that round to it, whose ends
belong to it when the mantissa is even.  For one digit, two digits and so on, the two points of that
decimal grid around the number are tried; the first grid with a point in the interval is taken.  Of
two such points the nearer one is taken, and an exact tie goes as the caller's `Tie` says.

Seventeen digits always suffice, so the search is bounded.
-/

namespace PageScript

/-- Where an exact tie between two decimal candidates goes. -/
inductive Tie where
  /-- To the candidate whose last digit is even. -/
  | even
  | up
deriving DecidableEq, Repr

/-- A decimal `digits * 10 ^ exponent`. -/
structure Decimal where
  /-- The digits as one natural number. -/
  digits : Nat
  /-- The power of ten of the last digit. -/
  exponent : Int
deriving DecidableEq, Repr

namespace Decimal

/-- The number and its interval over one denominator. -/
structure Interval where
  value : Nat
  low : Nat
  high : Nat
  den : Nat
  /-- Whether the ends round to the number. -/
  closed : Bool

/-- The reals that round to `m * 2 ^ e`.  Below a power of two the gap is half as wide. -/
def Interval.of (m : Nat) (e : Int) : Interval :=
  let (up, den) : Nat × Nat := match e with
    | .ofNat k => (Nat.pow 2 k, 4)
    | .negSucc k => (1, 4 * Nat.pow 2 (k + 1))
  let below := if m = Nat.pow 2 52 ∧ e ≠ Double.leastExponent then 1 else 2
  { value := 4 * m * up, low := (4 * m - below) * up, high := (4 * m + 2) * up, den := den,
    closed := m % 2 = 0 }

/-- `a / b ≤ c / d`, strictly where the interval is open. -/
def Interval.within (closed : Bool) (a c : Nat) : Bool := if closed then a ≤ c else a < c

/-- The point of the grid `10 ^ p` that is in the interval and nearest to the number, if any. -/
def Interval.onGrid (i : Interval) (tie : Tie) (p : Int) : Option Nat :=
  -- everything times `10 ^ (-p)` or over `10 ^ p`, to compare natural numbers
  let (up, down) : Nat × Nat := match p with
    | .ofNat k => (1, Nat.pow 10 k)
    | .negSucc k => (Nat.pow 10 (k + 1), 1)
  let unit := i.den * down
  let value := i.value * up
  let low := i.low * up
  let high := i.high * up
  let c := value / unit
  let lower := c * unit
  let upper := (c + 1) * unit
  let lowerIn := c ≠ 0 && within i.closed low lower
  let upperIn := within i.closed upper high
  if lower = value then some c
  else match lowerIn, upperIn with
    | true, true =>
      let dl := value - lower
      let du := upper - value
      if dl < du then some c
      else if du < dl then some (c + 1)
      else match tie with
        | .even => some (if c % 2 = 0 then c else c + 1)
        | .up => some (c + 1)
    | true, false => some c
    | false, true => some (c + 1)
    | false, false => none

/-- The greatest `k` with `10 ^ k ≤ num / den`, for a positive quotient in the range of the format:
an estimate from the binary logarithm, corrected by at most one step each way. -/
def floorLog10 (num den : Nat) : Int :=
  let estimate : Int := (Double.floorLog2 num den * 30103) / 100000
  let atLeast (k : Int) : Bool := match k with
    | .ofNat k => den * Nat.pow 10 k ≤ num
    | .negSucc k => den ≤ num * Nat.pow 10 (k + 1)
  if atLeast (estimate + 1) then estimate + 1
  else if atLeast estimate then estimate
  else estimate - 1

/-- The first grid with a hit, from the coarsest on. -/
def search (i : Interval) (tie : Tie) (top : Int) : Nat → Option Decimal
  | 0 => none
  | n + 1 =>
    match search i tie top n with
    | some d => some d
    | none => (i.onGrid tie (top - n)).map fun c => ⟨c, top - n⟩

/-- A decimal without trailing zeros in its digits; at most `fuel` of them are dropped. -/
def dropZeros : Nat → Decimal → Decimal
  | 0, d => d
  | fuel + 1, d =>
    if d.digits ≠ 0 ∧ d.digits % 10 = 0 then dropZeros fuel ⟨d.digits / 10, d.exponent + 1⟩ else d

/-- The shortest decimal that reads back to the positive number `m * 2 ^ e`. -/
def shortest (tie : Tie) (m : Nat) (e : Int) : Decimal :=
  let i := Interval.of m e
  match search i tie (floorLog10 i.value i.den) 17 with
  | some d => dropZeros 20 d
  | none => ⟨m, 0⟩

/-- The digits as characters. -/
def digitChars (d : Decimal) : List Char := Nat.toDigits 10 d.digits

end Decimal

example : Decimal.shortest .even 1 (-1074) = ⟨5, -324⟩ := by decide +kernel
example : Decimal.shortest .even (2 ^ 52) (-52) = ⟨1, 0⟩ := by decide +kernel
example : Decimal.shortest .even 7205759403792794 (-56) = ⟨1, -1⟩ := by decide +kernel

end PageScript
