import PageScript.Library.Module
import PageScript.Value.Text
import PageScript.Number.Reading

/-!
# Parameters of library functions

Library functions check how many values they are given and take integers, numbers and texts out of
them.  Numbers may also be spelled in a text, between blanks.
-/

namespace PageScript

namespace Library

/-- The error of a wrong number of values. -/
def wrongCount (function : String) (lo hi given : Nat) : Error :=
  let expected := if lo = hi then Nat.repr lo else Nat.repr lo ++ "..=" ++ Nat.repr hi
  .argument (function ++ "() takes " ++ expected ++ " arguments (" ++ Nat.repr given ++ " given)")

/-- Refuses fewer values than `lo` and more than `hi`. -/
def checkCount (function : String) (args : List Value) (lo hi : Nat) : Except Error Unit :=
  if args.length < lo ∨ hi < args.length then .error (wrongCount function lo hi args.length)
  else .ok ()

/-- The integer that a value stands for.  A number beyond the signed 64-bit range is brought to its
nearest end. -/
def int? : Value → Option Int
  | .number (.integer n) =>
    if Reading.int64Min ≤ n ∧ n ≤ Reading.int64Max then some n
    else some ((Double.ofInt n).toIntBetween Reading.int64Min Reading.int64Max)
  | .number (.real x) =>
    if x.isInteger then some (x.toIntBetween Reading.int64Min Reading.int64Max) else none
  | .text s => Reading.int64? (Text.trim s.toList)
  | _ => none

/-- An integer parameter. -/
def int (function : String) (v : Value) : Except Error Int :=
  match int? v with
  | some n => .ok n
  | none => .error (.argument (function ++ "() expected an integer, got " ++ v.toText))

/-- The number that a value stands for. -/
def double? : Value → Option Double
  | .number n => some n.toDouble
  | .text s => Reading.double? (Text.trim s.toList)
  | _ => none

/-- A number parameter. -/
def double (function : String) (v : Value) : Except Error Double :=
  match double? v with
  | some x => .ok x
  | none => .error (.argument (function ++ "() expected a number, got " ++ v.toText))

/-- One list given as the only value, or else the values themselves. -/
def items : List Value → List Value
  | [.list vs] => vs
  | vs => vs

/-- A value at a position, null if there is none. -/
def nth (args : List Value) (index : Nat) : Value := (args[index]?).getD .null

/-- A function that takes nothing from the surroundings. -/
def pure (f : List Value → Except Error Value) : Callable := fun args => ExceptT.mk fun s =>
  (f args, s)

/-- A function that takes something from the surroundings once its values are found fit. -/
def taking {α : Type} (check : List Value → Except Error α) (f : α → Taking Value) : Callable :=
  fun args => ExceptT.mk fun s =>
    match check args with
    | .error e => (.error e, s)
    | .ok a =>
      let (v, s) := (f a).run s
      (.ok v, s)

end Library

end PageScript
