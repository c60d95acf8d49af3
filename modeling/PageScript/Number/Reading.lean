import PageScript.Number.Double

/-!
# Reading numbers

Decimal texts of integers and of binary64 numbers, read as a whole: a text with anything else in it
is no number.  Integers are read into a range and refused outside it.  A binary64 text is a sign,
then digits with at most one point among them and an optional exponent, or one of the words `inf`,
`infinity` and `nan` in any case; the value is the nearest number to the decimal.
-/

namespace PageScript

namespace Reading

/-- An ASCII digit. -/
def isDigit (c : Char) : Bool := '0' ≤ c && c ≤ '9'

/-- The value of a digit in bases up to sixteen. -/
def digitValue (c : Char) : Option Nat :=
  if '0' ≤ c && c ≤ '9' then some (c.toNat - '0'.toNat)
  else if 'a' ≤ c && c ≤ 'f' then some (c.toNat - 'a'.toNat + 10)
  else if 'A' ≤ c && c ≤ 'F' then some (c.toNat - 'A'.toNat + 10)
  else none

/-- The value of a row of digits after a value already read; `none` at a character that is no digit
of the base. -/
def foldDigits (base : Nat) : Nat → List Char → Option Nat
  | n, [] => some n
  | n, c :: cs =>
    match digitValue c with
    | some d => if d < base then foldDigits base (n * base + d) cs else none
    | none => none

/-- A non-empty row of digits in a base. -/
def natInBase? (base : Nat) (cs : List Char) : Option Nat :=
  if cs.isEmpty then none else foldDigits base 0 cs

/-- An integer in a base with an optional sign, within a range.  A minus sign is refused where the
range holds no negative number. -/
def intInBase? (base : Nat) (lo hi : Int) (cs : List Char) : Option Int :=
  let (negative, digits) := match cs with
    | '+' :: rest => (false, rest)
    | '-' :: rest => (true, rest)
    | _ => (false, cs)
  if negative && 0 ≤ lo then none
  else match natInBase? base digits with
    | none => none
    | some n =>
      let v : Int := if negative then -(n : Int) else n
      if lo ≤ v ∧ v ≤ hi then some v else none

/-- The least 64-bit integer. -/
def int64Min : Int := -9223372036854775808
/-- The greatest 64-bit integer. -/
def int64Max : Int := 9223372036854775807
/-- The greatest unsigned 64-bit integer. -/
def nat64Max : Int := 18446744073709551615

/-- A signed 64-bit integer. -/
def int64? (cs : List Char) : Option Int := intInBase? 10 int64Min int64Max cs

/-- An unsigned 64-bit integer. -/
def nat64? (cs : List Char) : Option Nat := (intInBase? 10 0 nat64Max cs).map Int.toNat

/-- The longest row of digits in front, as characters, and what follows. -/
def spanDigits (cs : List Char) : List Char × List Char :=
  (cs.takeWhile isDigit, cs.dropWhile isDigit)

/-- The value of characters that are digits. -/
def digitsValue (cs : List Char) : Nat := (foldDigits 10 0 cs).getD 0

/-- The exponent part of a decimal text: nothing, or a letter, an optional sign and digits.
Exponents of more than nine digits are cut there, far beyond the range of the format. -/
def exponentPart? : List Char → Option Int
  | [] => some 0
  | c :: rest =>
    if c == 'e' || c == 'E' then
      let (negative, digits) := match rest with
        | '+' :: r => (false, r)
        | '-' :: r => (true, r)
        | _ => (false, rest)
      if digits.isEmpty || !digits.all isDigit then none
      else
        let significant := digits.dropWhile (· == '0')
        let n : Nat := if significant.length > 9 then 1000000000 else digitsValue significant
        some (if negative then -(n : Int) else n)
    else none

/-- An unsigned decimal text. -/
def decimal? (negative : Bool) (cs : List Char) : Option Double :=
  let (whole, rest) := spanDigits cs
  let (fraction, rest) := match rest with
    | '.' :: r => spanDigits r
    | _ => ([], rest)
  if whole.isEmpty && fraction.isEmpty then none
  else match exponentPart? rest with
    | none => none
    | some e =>
      some (Double.ofDecimal negative (digitsValue (whole ++ fraction)) (e - fraction.length))

/-- A binary64 number. -/
def double? (cs : List Char) : Option Double :=
  let (negative, body) := match cs with
    | '+' :: rest => (false, rest)
    | '-' :: rest => (true, rest)
    | _ => (false, cs)
  let word := String.ofList (body.map Char.toLower)
  if word == "inf" || word == "infinity" then some (.infinite negative)
  else if word == "nan" then some .nan
  else decimal? negative body

example : int64? "-12".toList = some (-12) := by decide
example : nat64? "-0".toList = none := by decide
example : double? "5.".toList = double? "+5".toList := by decide +kernel
example : double? "1_0".toList = none := by decide +kernel

end Reading

end PageScript
