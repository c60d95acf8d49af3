import PageScript.Value.Text
import PageScript.Number.Reading
import PageScript.Text.Pieces
import PageScript.Text.Case
import PageScript.Error

/-!
# Arguments of an operation

An operation is given a list of values.  When the only value is an object, its fields are the
arguments by name; otherwise an argument is found by position, and null there means that it is
absent.  Readers turn an argument into the kind of thing that the operation needs, or fail with an
argument error that names the operation and the argument.

`Arguments.shape` lays out the argument of a command: a list gives its items, unless its first item
is a list, which makes the whole list one argument.
-/

namespace PageScript

/-- A span of time in nanoseconds. -/
abbrev Duration := Nat

/-- A span of whole seconds. -/
def Duration.ofSeconds (s : Nat) : Duration := s * 1000000000

/-- A span of whole milliseconds. -/
def Duration.ofMillis (ms : Nat) : Duration := ms * 1000000

/-- Seconds as a span, to the nearest nanosecond, a tie to the even one.  Negative seconds, seconds
beyond the 64-bit range and what is no number are refused. -/
def Duration.ofDouble? : Double → Option Duration
  | .finite negative m e =>
    if negative && m ≠ 0 then none
    else
      let (n, d) := Double.scale (m * 1000000000) 1 (-e)
      let ns := Double.nearestEven n d
      if ns < Nat.pow 2 64 * 1000000000 then some ns else none
  | _ => none

/-- The values that an operation is given. -/
structure Arguments where
  /-- The name of the operation, for messages. -/
  op : String
  values : List Value

namespace Arguments

/-- The argument of a command laid out as values. -/
def shape : Option Value → List Value
  | none => []
  | some .null => []
  | some (.list (.list vs :: rest)) => [.list (.list vs :: rest)]
  | some (.list vs) => vs
  | some v => [v]

/-- The value at a position. -/
def get? (a : Arguments) (index : Nat) : Option Value := a.values[index]?

/-- An argument by name when the only value is an object, else by position, where null is absent. -/
def param? (a : Arguments) (index : Nat) (name : String) : Option Value :=
  match a.values with
  | [.object fields] => Value.field? name fields
  | values => (values[index]?).filter fun v => !v.isNull

/-- The error of an argument that is absent. -/
def missing (a : Arguments) (name : String) : Error :=
  .argument (a.op ++ ": missing argument '" ++ name ++ "'")

/-- The error of an argument that is unfit. -/
def unfit (a : Arguments) (name expected : String) (got : Value) : Error :=
  .argument (a.op ++ ": argument '" ++ name ++ "' must be " ++ expected ++ ", got " ++ got.toText)

/-- An argument that must be present. -/
def required {α : Type} (a : Arguments) (name : String) : Except Error (Option α) → Except Error α
  | .error e => .error e
  | .ok none => .error (a.missing name)
  | .ok (some x) => .ok x

/-- A scalar argument as a text. -/
def text? (a : Arguments) (index : Nat) (name : String) : Except Error (Option String) :=
  match a.param? index name with
  | none => .ok none
  | some v =>
    match v.scalarText with
    | some s => .ok (some s)
    | none => .error (a.unfit name "a scalar" v)

/-- A scalar argument as a text, required. -/
def text (a : Arguments) (index : Nat) (name : String) : Except Error String :=
  a.required name (a.text? index name)

/-- A number, or a text that spells one between blanks. -/
def double? (a : Arguments) (index : Nat) (name : String) : Except Error (Option Double) :=
  match a.param? index name with
  | none => .ok none
  | some (.number n) => .ok (some n.toDouble)
  | some (.text s) =>
    match Reading.double? (Text.trim s.toList) with
    | some x => .ok (some x)
    | none => .error (a.unfit name "a number" (.text s))
  | some v => .error (a.unfit name "a number" v)

/-- A number, required. -/
def double (a : Arguments) (index : Nat) (name : String) : Except Error Double :=
  a.required name (a.double? index name)

/-- A number without a fraction, brought into the signed 64-bit range. -/
def int? (a : Arguments) (index : Nat) (name : String) : Except Error (Option Int) :=
  match a.double? index name with
  | .error e => .error e
  | .ok none => .ok none
  | .ok (some x) =>
    if x.isInteger then .ok (some (x.toIntBetween Reading.int64Min Reading.int64Max))
    else .error (a.unfit name "an integer" (.ofDouble x))

/-- A number without a fraction, required. -/
def int (a : Arguments) (index : Nat) (name : String) : Except Error Int :=
  a.required name (a.int? index name)

/-- A count. -/
def nat (a : Arguments) (index : Nat) (name : String) : Except Error Nat :=
  match a.int index name with
  | .error e => .error e
  | .ok n => if n < 0 then .error (a.unfit name "non-negative" (.int n)) else .ok n.toNat

/-- A boolean: itself, a number that is not zero, or one of the words for it. -/
def bool? (a : Arguments) (index : Nat) (name : String) : Except Error (Option Bool) :=
  match a.param? index name with
  | none => .ok none
  | some (.bool b) => .ok (some b)
  | some (.number n) => .ok (some (!n.toDouble.same (.zero false)))
  | some (.text s) =>
    let word := String.ofList (Text.asciiLower (Text.trim s.toList))
    if ["true", "yes", "1"].contains word then .ok (some true)
    else if ["false", "no", "0", ""].contains word then .ok (some false)
    else .error (a.unfit name "a boolean" (.text s))
  | some v => .error (a.unfit name "a boolean" v)

/-- A boolean, or a default when it is absent. -/
def boolOr (a : Arguments) (index : Nat) (name : String) (default : Bool) : Except Error Bool :=
  match a.bool? index name with
  | .error e => .error e
  | .ok b => .ok (b.getD default)

/-- The argument `timeout` in seconds, or a default when it is absent. -/
def timeout (a : Arguments) (index : Nat) (default : Duration) : Except Error Duration :=
  match a.double? index "timeout" with
  | .error e => .error e
  | .ok none => .ok default
  | .ok (some x) =>
    match Duration.ofDouble? x with
    | some d => .ok d
    | none => .error (a.unfit "timeout" "a non-negative number of seconds" (.ofDouble x))

end Arguments

end PageScript
