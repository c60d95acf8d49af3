import PageScript.Value.Basic
import PageScript.Number.Reading
import PageScript.Text.Pieces

/-!
# What plain scalars mean

A plain scalar is null, a boolean, an integer or a number if it is spelled like one, and a text
otherwise.  Integers may be written in bases sixteen, eight and two.  A row of digits that begins
with a zero is a text.  An integer of more than 64 bits that still fits 128 bits has no meaning as a
value; a longer one is read as a binary64 number.
-/

namespace PageScript

namespace Yaml

/-- A spelling of null. -/
def isNullWord (s : String) : Bool := ["null", "Null", "NULL", "~"].contains s

/-- A spelling of a boolean. -/
def boolWord? (s : String) : Option Bool :=
  if ["true", "True", "TRUE"].contains s then some true
  else if ["false", "False", "FALSE"].contains s then some false
  else none

/-- A row of digits, perhaps with a sign, that begins with a zero and has more than one digit. -/
def isZeroRow (cs : List Char) : Bool :=
  let digits := match cs with
    | '-' :: rest => rest
    | '+' :: rest => rest
    | _ => cs
  match digits with
  | '0' :: rest => !rest.isEmpty && rest.all Reading.isDigit
  | _ => false

/-- The digits behind the sign of a base, and the base. -/
def based? : List Char → Option (Nat × List Char)
  | '0' :: 'x' :: digits => some (16, digits)
  | '0' :: 'o' :: digits => some (8, digits)
  | '0' :: 'b' :: digits => some (2, digits)
  | _ => none

/-- A natural number of any size. -/
def natural? (cs : List Char) : Option Nat :=
  let body := match cs with
    | '+' :: rest => rest
    | _ => cs
  let inBase := (based? body).bind fun (base, digits) => Reading.natInBase? base digits
  match inBase with
  | some n => some n
  | none => if isZeroRow cs then none else Reading.natInBase? 10 body

/-- An integer of any size with a minus sign, as the number behind the sign. -/
def negative? (cs : List Char) : Option Nat :=
  match cs with
  | '-' :: body =>
    match (based? body).bind fun (base, digits) => Reading.natInBase? base digits with
    | some n => some n
    | none => if isZeroRow cs then none else Reading.natInBase? 10 body
  | _ => none

/-- What a scalar is as a number. -/
inductive Numeral where
  | integer (n : Int)
  /-- An integer of more than 64 and at most 128 bits. -/
  | wide
  | other

/-- The integer that a text spells. -/
def numeral (cs : List Char) : Numeral :=
  match natural? cs, negative? cs with
  | some n, _ =>
    if n < Nat.pow 2 64 then .integer n else if n < Nat.pow 2 128 then .wide else .other
  | none, some n =>
    if n ≤ Nat.pow 2 63 then .integer (-(n : Int)) else if n ≤ Nat.pow 2 127 then .wide else .other
  | none, none => .other

/-- A natural number of at most 64 bits. -/
def nat64? (s : String) : Option Nat :=
  match numeral s.toList with
  | .integer n => if n < 0 then none else some n.toNat
  | _ => none

/-- The number that a text spells: a finite decimal, an infinity or not-a-number. -/
def double? (s : String) : Option Double :=
  let body := match s.toList with
    | '+' :: rest => rest
    | cs => cs
  let signed := s.toList.head? = some '+' && (body.head? = some '+' || body.head? = some '-')
  let word := String.ofList body
  if signed then none
  else if [".inf", ".Inf", ".INF"].contains word then some (.infinite false)
  else if ["-.inf", "-.Inf", "-.INF"].contains s then some (.infinite true)
  else if [".nan", ".NaN", ".NAN"].contains s then some .nan
  else match Reading.double? body with
    | some x => if x.isFinite then some x else none
    | none => none

/-- What a plain scalar means; none where it has no meaning as a value. -/
def plainMeaning (s : String) : Option Value :=
  if s.isEmpty || isNullWord s then some .null
  else match boolWord? s with
    | some b => some (.bool b)
    | none =>
      match numeral s.toList with
      | .integer n => some (.int n)
      | .wide => none
      | .other =>
        if isZeroRow s.toList then some (.text s)
        else match double? s with
          | some x => some (.ofDouble x)
          | none => some (.text s)

/-- A text that would not be read as a text if it were written plain. -/
def needsQuotes (s : String) : Bool :=
  match plainMeaning s with
  | some (.text t) => t ≠ s || isZeroRow s.toList
  | _ => true

/-- The text of a standard tag. -/
def standardTag (name : String) : String := "tag:yaml.org,2002:" ++ name

/-- What a scalar means that has a tag. -/
def taggedMeaning (tag text : String) : Option Value :=
  if tag = standardTag "bool" then (boolWord? text).map .bool
  else if tag = standardTag "int" then
    match numeral text.toList with
    | .integer n => some (.int n)
    | _ => none
  else if tag = standardTag "float" then (double? text).map .ofDouble
  else if tag = standardTag "null" then if isNullWord text then some .null else none
  else if tag.toList.head? = some '!' then none
  else some (.text text)

/-- What a scalar means. -/
def meaning (text : String) (plain : Bool) : Option String → Option Value
  | some tag => taggedMeaning tag text
  | none => if plain then plainMeaning text else some (.text text)

end Yaml

end PageScript
