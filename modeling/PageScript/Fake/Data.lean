import PageScript.Surroundings
import PageScript.Fake.Words
import PageScript.Text.Case

/-!
# Synthetic data

A source of data answers a category with a value, or with nothing when it does not know the
category.  `Fake.generate` is the source with built-in word lists.  Card numbers carry a check digit,
which is chosen so that the weighted digit sum of the whole number ends in zero.
-/

namespace PageScript

/-- A source of values by category. -/
abbrev FakeSource := String → Taking (Option Value)

namespace Fake

open Surroundings

/-- A word of a list. -/
def word (list : List String) : Taking String := pickOr "" list

/-- A number from `lo`, below `hi`. -/
def between (lo hi : Nat) : Taking Nat := do return lo + (← draw (hi - lo))

/-- A row of drawn digits. -/
def digits (count : Nat) : Taking String := do
  return String.ofList ((← times (draw 10) count).map Nat.digitChar)

/-- A text with its first letter made large; only an ASCII letter is. -/
def capitalised (s : String) : String :=
  match s.toList with
  | [] => ""
  | c :: cs => String.ofList (c.toUpper :: cs)

/-- Four to nine words. -/
def sentence : Taking String := do
  let ws ← times (word words) (← between 4 10)
  return capitalised (Text.join " " ws) ++ "."

/-- Three to five sentences. -/
def paragraph : Taking String := do
  return Text.join " " (← times sentence (← between 3 6))

/-- A name to log in with. -/
def userName : Taking String := do
  let first ← word firstNames
  let last ← word lastNames
  let n ← between 1 100
  return Text.lower first ++ "." ++ Text.lower last ++ Nat.repr n

/-- A house number and a street. -/
def streetAddress : Taking String := do
  let n ← between 1 9999
  let name ← word lastNames
  let ending ← word streetEndings
  return Nat.repr n ++ " " ++ name ++ " " ++ ending

/-! ## Card numbers -/

/-- What a doubled digit counts: the sum of the digits of the double. -/
def doubled (d : Nat) : Nat := if 2 * d > 9 then 2 * d - 9 else 2 * d

/-- The weighted sum of digits that are given from the last one: every second one is doubled,
beginning with the first or the second. -/
def weightedSum : Bool → List Nat → Nat
  | _, [] => 0
  | double, d :: ds => (if double then doubled d else d) + weightedSum (!double) ds

/-- The digit that makes the weighted sum of the digits with it a multiple of ten. -/
def checkDigit (body : List Nat) : Nat := (10 - weightedSum true body.reverse % 10) % 10

/-- The weighted sum of a whole number, from the right, ends in zero. -/
def passesCheck (number : List Nat) : Bool := weightedSum false number.reverse % 10 = 0

/-- The digits of a card: a four, the drawn digits and the check digit. -/
def cardDigits (drawn : List Nat) : List Nat := 4 :: drawn ++ [checkDigit (4 :: drawn)]

/-- A card number. -/
def cardNumber : Taking String := do
  return String.ofList ((cardDigits (← times (draw 10) 14)).map Nat.digitChar)

/-! ## Categories -/

/-- A day of the last thirty years. -/
def date : Taking String := do
  let back ← draw (365 * 30)
  let d := Date.ofDays ((← look).days - back)
  return TimeFormat.filled .zero 4 d.year ++ "-" ++ TimeFormat.filled .zero 2 d.month ++ "-"
    ++ TimeFormat.filled .zero 2 d.day

/-- A random identifier in five groups, of the version for random identifiers. -/
def identifier : Taking String := do
  let hex (count : Nat) : Taking (List Char) := do
    return (← times (draw 16) count).map Nat.digitChar
  let a ← hex 8
  let b ← hex 4
  let c ← hex 3
  let variant ← pickOr '8' ['8', '9', 'a', 'b']
  let d ← hex 3
  let e ← hex 12
  return String.ofList (a ++ '-' :: b ++ '-' :: '4' :: c ++ '-' :: variant :: d ++ '-' :: e)

/-- A text of a category. -/
def text? : String → Option (Taking String)
  | "first_name" => some (word firstNames)
  | "last_name" => some (word lastNames)
  | "name" => some do return (← word firstNames) ++ " " ++ (← word lastNames)
  | "user_name" => some userName
  | "email" => some do return (← userName) ++ "@" ++ (← word mailDomains)
  | "password" => some do return String.ofList (← times (pickOr 'a' passwordLetters) 12)
  | "phone_number" => some do
    let area ← between 200 999
    return "(" ++ Nat.repr area ++ ") " ++ (← digits 3) ++ "-" ++ (← digits 4)
  | "street_address" => some streetAddress
  | "city" => some (word cities)
  | "state" => some (word states)
  | "zipcode" => some (digits 5)
  | "postcode" => some (digits 5)
  | "address" => some do
    return (← streetAddress) ++ "\n" ++ (← word cities) ++ ", " ++ (← word states) ++ " "
      ++ (← digits 5)
  | "country" => some (word countries)
  | "company" => some do return (← word lastNames) ++ " " ++ (← word companyEndings)
  | "word" => some (word words)
  | "sentence" => some sentence
  | "paragraph" => some paragraph
  | "text" => some paragraph
  | "url" => some do
    return "https://www." ++ Text.lower (← word lastNames) ++ "." ++ (← word topDomains) ++ "/"
  | "date" => some date
  | "credit_card_number" => some cardNumber
  | "ssn" => some do return (← digits 3) ++ "-" ++ (← digits 2) ++ "-" ++ (← digits 4)
  | "uuid4" => some identifier
  | _ => none

/-- The built-in source. -/
def generate : FakeSource := fun category =>
  match text? category with
  | some action => do return some (.text (← action))
  | none =>
    if category = "pyint" then do return some (.int (← draw 10000))
    else if category = "boolean" then do return some (.bool ((← draw 2) = 1))
    else return none

/-- The source that knows the given categories, each with one value. -/
def fixed (values : List (String × Value)) : FakeSource := fun category =>
  return Value.field? category values

example : passesCheck (cardDigits [5, 3, 9, 1, 4, 8, 8, 0, 3, 4, 3, 6, 4, 6]) = true := by decide

end Fake

end PageScript
