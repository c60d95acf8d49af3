/-!
# Binary64 numbers

A `Double` is a binary64 number said by its meaning: a sign, a mantissa and an exponent of two, or
one of the two infinities, or no number.  Nothing here knows about bits.

`Double.round` is the only place where a real value becomes a `Double`.  It takes an exact quotient
of natural numbers and gives the nearest number of the format, a tie going to the even mantissa.
Reading a decimal text, converting an integer and the arithmetic below are exact quotients that are
rounded once, so each of them is correctly rounded.

A finite number is in *normal form* when its mantissa is below `2 ^ 53` and either reaches `2 ^ 52`
or sits at the least exponent.  `round` gives only numbers in normal form, so equality of the
fields is equality of the numbers, signed zeros apart.
-/

namespace PageScript

/-- A binary64 number.  `finite s m e` stands for `(-1)^s * m * 2^e`. -/
inductive Double where
  /-- A finite number: sign, mantissa, exponent of two. -/
  | finite (negative : Bool) (mantissa : Nat) (exponent : Int)
  | infinite (negative : Bool)
  | nan
deriving DecidableEq, Repr, Inhabited

namespace Double

/-! ## Rounding -/

/-- The exponent of the smallest positive number. -/
def leastExponent : Int := -1074

/-- The largest exponent of a finite number in normal form. -/
def greatestExponent : Int := 971

/-- Zero with a sign. -/
def zero (negative : Bool) : Double := .finite negative 0 leastExponent

/-- `num / den * 2 ^ (-e)` as a numerator and a denominator. -/
def scale (num den : Nat) (e : Int) : Nat × Nat :=
  match e with
  | .ofNat k => (num, den <<< k)
  | .negSucc k => (num <<< (k + 1), den)

/-- The quotient rounded to the nearest natural number, a tie to the even one. -/
def nearestEven (num den : Nat) : Nat :=
  let q := num / den
  let r := num % den
  if 2 * r < den then q
  else if den < 2 * r then q + 1
  else if q % 2 = 0 then q else q + 1

/-- The greatest `k` with `2 ^ k ≤ num / den`, for positive arguments. -/
def floorLog2 (num den : Nat) : Int :=
  let k : Int := (Nat.log2 num : Int) - (Nat.log2 den : Int)
  let (n, d) := scale num den k
  if d ≤ n then k else k - 1

/-- The number of the format that is nearest to `num / den`, with the given sign. -/
def round (negative : Bool) (num den : Nat) : Double :=
  if num = 0 then zero negative
  else
    let e := max (floorLog2 num den - 52) leastExponent
    let (n, d) := scale num den e
    let m := nearestEven n d
    let (m, e) := if m = Nat.pow 2 53 then (Nat.pow 2 52, e + 1) else (m, e)
    if e > greatestExponent then .infinite negative else .finite negative m e

/-- The nearest number to an integer. -/
def ofInt (n : Int) : Double := round (n < 0) n.natAbs 1

/-- The nearest number to `digits * 10 ^ exponent`.  Values far outside the range of the format are
answered without computing the power. -/
def ofDecimal (negative : Bool) (digits : Nat) (exponent : Int) : Double :=
  if digits = 0 then zero negative
  else
    let places : Int := (Nat.toDigits 10 digits).length + exponent
    if places > 400 then .infinite negative
    else if places < -400 then zero negative
    else match exponent with
      | .ofNat k => round negative (digits * Nat.pow 10 k) 1
      | .negSucc k => round negative digits (Nat.pow 10 (k + 1))

/-! ## Parts -/

/-- The number is neither an infinity nor not-a-number. -/
def isFinite : Double → Bool
  | .finite .. => true
  | _ => false

/-- The same number with the other sign. -/
def neg : Double → Double
  | .finite s m e => .finite (!s) m e
  | .infinite s => .infinite (!s)
  | .nan => .nan

/-- The number has no fractional part.  Infinities and not-a-number are not integers. -/
def isInteger : Double → Bool
  | .finite _ m e =>
    match e with
    | .ofNat _ => true
    | .negSucc k => m % Nat.pow 2 (k + 1) = 0
  | _ => false

/-- The value of a finite number with its fraction dropped. -/
def truncate : Double → Int
  | .finite s m e =>
    let magnitude : Nat := match e with
      | .ofNat k => m <<< k
      | .negSucc k => m >>> (k + 1)
    if s then -(magnitude : Int) else magnitude
  | _ => 0

/-- The nearest integer toward zero within `lo` and `hi`; not-a-number gives zero. -/
def toIntBetween (lo hi : Int) : Double → Int
  | .nan => 0
  | .infinite s => if s then lo else hi
  | x => max lo (min hi x.truncate)

/-! ## Arithmetic

A finite number is an integer over a power of two.  Sums and products are computed there. -/

/-- The value of a finite number as an integer over a natural number. -/
def fraction (negative : Bool) (m : Nat) (e : Int) : Int × Nat :=
  let (n, d) := match e with
    | .ofNat k => (m <<< k, 1)
    | .negSucc k => (m, 1 <<< (k + 1))
  (if negative then -(n : Int) else n, d)

/-- The sum, rounded once.  Two zeros of one sign keep it; any other exact zero is positive. -/
def add : Double → Double → Double
  | .nan, _ => .nan
  | _, .nan => .nan
  | .infinite s, .infinite t => if s = t then .infinite s else .nan
  | .infinite s, _ => .infinite s
  | _, .infinite t => .infinite t
  | .finite s m e, .finite t n f =>
    let (a, p) := fraction s m e
    let (b, q) := fraction t n f
    let sum := a * q + b * p
    if sum = 0 then zero (s && t) else round (sum < 0) sum.natAbs (p * q)

/-- The difference, rounded once. -/
def sub (x y : Double) : Double := x.add y.neg

/-- The product, rounded once. -/
def mul : Double → Double → Double
  | .nan, _ => .nan
  | _, .nan => .nan
  | .infinite s, .infinite t => .infinite (s != t)
  | .infinite s, .finite t n _ => if n = 0 then .nan else .infinite (s != t)
  | .finite s m _, .infinite t => if m = 0 then .nan else .infinite (s != t)
  | .finite s m e, .finite t n f =>
    let (a, p) := fraction false m e
    let (b, q) := fraction false n f
    round (s != t) (a * b).natAbs (p * q)

/-- The quotient of a finite number by a finite number other than zero, rounded once. -/
def div : Double → Double → Double
  | .finite s m e, .finite t n f =>
    let (a, p) := fraction false m e
    let (b, q) := fraction false n f
    round (s != t) (a.natAbs * q) (b.natAbs * p)
  | _, _ => .nan

/-- The absolute value. -/
def abs : Double → Double
  | .finite _ m e => .finite false m e
  | .infinite _ => .infinite false
  | .nan => .nan

/-- Strict order; not-a-number is in no order with anything. -/
def lt : Double → Double → Bool
  | .nan, _ => false
  | _, .nan => false
  | .infinite s, .infinite t => s && !t
  | .infinite s, .finite .. => s
  | .finite .., .infinite t => !t
  | .finite s m e, .finite t n f =>
    let (a, p) := fraction s m e
    let (b, q) := fraction t n f
    a * q < b * p

/-- Equality as numbers: the two zeros are equal, and not-a-number differs from itself. -/
def same : Double → Double → Bool
  | .finite s m e, .finite t n f => if m = 0 ∧ n = 0 then true else s == t && m == n && e == f
  | .infinite s, .infinite t => s == t
  | _, _ => false

example : ofInt 9007199254740993 = ofInt 9007199254740992 := by decide
example : ofDecimal false 1 400 = .infinite false := by decide
example : ofDecimal false 5 (-1) = .finite false (2 ^ 52) (-53) := by decide
example : same (zero true) (zero false) = true := by decide

end Double

end PageScript
