import PageScript.Number.Shortest

/-!
# Texts of numbers

Every text of a number is the sequence of its shortest digits laid out by a `Layout`: which decimal
exponents are written positionally, whether a whole number keeps `.0`, and how an exponent is
written.  The program has three layouts.  `Layout.value` is the text of a number inside a value,
`Layout.yaml` the text in a YAML report, and `Layout.plain` the text in messages and page scripts,
which never has an exponent.
-/

namespace PageScript

/-- How the digits of a number are laid out. -/
structure Layout where
  /-- Where an exact tie between two shortest texts goes. -/
  tie : Tie
  /-- The decimal exponents that are written positionally: from the first to the second.  Without
  bounds every number is written positionally. -/
  positional : Option (Int × Int)
  /-- A whole number written positionally ends in `.0`. -/
  point : Bool
  /-- The text before a positive exponent. -/
  plus : String

namespace Layout

/-- The text of a number inside a value: an exponent always has a sign. -/
def value : Layout := ⟨.even, some (-5, 15), true, "e+"⟩

/-- The text of a number in a YAML document. -/
def yaml : Layout := ⟨.even, some (-5, 15), true, "e"⟩

/-- The text of a number in messages: no exponent, no trailing `.0`. -/
def plain : Layout := ⟨.up, none, false, ""⟩

/-- Digits with the decimal point after the first `places` of them; zeros fill the gaps. -/
def positionally (l : Layout) (digits : List Char) (exponent : Int) : String :=
  let count := digits.length
  match exponent with
  | .ofNat k => String.ofList (digits ++ List.replicate k '0') ++ (if l.point then ".0" else "")
  | .negSucc k =>
    if k + 1 < count then
      String.ofList (digits.take (count - (k + 1))) ++ "." ++
        String.ofList (digits.drop (count - (k + 1)))
    else "0." ++ String.ofList (List.replicate (k + 1 - count) '0' ++ digits)

/-- Digits with the point after the first one, and an exponent. -/
def scientific (l : Layout) (digits : List Char) (leading : Int) : String :=
  let mantissa := match digits with
    | [] => ""
    | [d] => String.ofList [d]
    | d :: rest => String.ofList (d :: '.' :: rest)
  let exponent := match leading with
    | .ofNat k => l.plus ++ Nat.repr k
    | .negSucc k => "e-" ++ Nat.repr (k + 1)
  mantissa ++ exponent

/-- The text of a positive decimal. -/
def ofDecimal (l : Layout) (d : Decimal) : String :=
  let digits := d.digitChars
  let leading : Int := d.exponent + digits.length - 1
  match l.positional with
  | some (lo, hi) =>
    if lo ≤ leading ∧ leading ≤ hi then l.positionally digits d.exponent
    else l.scientific digits leading
  | none => l.positionally digits d.exponent

/-- The text of a number. -/
def text (l : Layout) : Double → String
  | .nan => "NaN"
  | .infinite s => if s then "-inf" else "inf"
  | .finite s m e =>
    (if s then "-" else "") ++
      if m = 0 then (if l.point then "0.0" else "0")
      else l.ofDecimal (Decimal.shortest l.tie m e)

end Layout

/-- The decimal text of an integer. -/
def intText (n : Int) : String :=
  match n with
  | .ofNat k => Nat.repr k
  | .negSucc k => "-" ++ Nat.repr (k + 1)

example : Layout.value.text (.ofDecimal false 1 16) = "1e+16" := by decide +kernel
example : Layout.yaml.text (.ofDecimal false 34 37) = "3.4e38" := by decide +kernel
example : Layout.value.text (.ofDecimal false 1 (-5)) = "0.00001" := by decide +kernel
example : Layout.plain.text (.ofDecimal false 1 (-7)) = "0.0000001" := by decide +kernel
example : Layout.value.text (.zero true) = "-0.0" := by decide +kernel

end PageScript
