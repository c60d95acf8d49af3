import PageScript.Library.Parameters

/-!
# Functions of chance

The module `random`: integers and numbers from a range, and items of a list.  The values of a range
of integers with a step are numbered, one of the numbers is drawn, and the value at that place is
computed from it.  Ranges are given in 64 bits and computed in 128, so that no operation on them
overflows.
-/

namespace PageScript

namespace Library

/-- An integer in 128 bits, in which the values of a range are computed. -/
abbrev wide (n : Int) : BitVec 128 := BitVec.ofInt 128 n

/-- A range of integers: from `start`, below `stop`, every `step`. -/
structure IntRange where
  start : Int
  /-- The first value beyond the range. -/
  stop : Int
  step : Int
deriving DecidableEq, Repr

namespace IntRange

/-- The distance from the start of the range to its end. -/
def span (r : IntRange) : BitVec 128 := wide r.stop - wide r.start

/-- The number of values, for a positive step. -/
def count (r : IntRange) : Nat := ((r.span + wide r.step - 1).sdiv (wide r.step)).toInt.toNat

/-- The value at a place of the range. -/
def value (r : IntRange) (k : Nat) : Int := (wide r.start + wide k * wide r.step).toInt

/-- The range holds no value, or its step is not positive. -/
def isEmpty (r : IntRange) : Bool := r.step ≤ 0 || r.stop ≤ r.start

/-- A drawn value. -/
def draw (r : IntRange) : Taking Int := do
  let k ← Surroundings.draw r.count
  return r.value k

end IntRange

/-- Two integers, the second not below the first. -/
def inclusive (args : List Value) : Except Error (Int × Int) := do
  checkCount "randint" args 2 2
  let lo ← int "randint" (nth args 0)
  let hi ← int "randint" (nth args 1)
  if hi < lo then
    throw (.argument ("randint() empty range (" ++ intText lo ++ ", " ++ intText hi ++ ")"))
  return (lo, hi)

/-- A drawn integer between two others or equal to one of them. -/
def drawBetween (lo hi : Int) : Taking Int := do
  return lo + (← Surroundings.draw (hi - lo + 1).toNat)

/-- A range given by its end, by both ends, or by both ends and its step. -/
def range (args : List Value) : Except Error IntRange := do
  checkCount "randrange" args 1 3
  match args with
  | [stop] => return ⟨0, ← int "randrange" stop, 1⟩
  | [start, stop] => return ⟨← int "randrange" start, ← int "randrange" stop, 1⟩
  | [start, stop, step] =>
    return ⟨← int "randrange" start, ← int "randrange" stop, ← int "randrange" step⟩
  | _ => throw (.argument "randrange() takes 1..=3 arguments")

/-- A range that holds a value. -/
def stepped (args : List Value) : Except Error IntRange := do
  let r ← range args
  if r.isEmpty then
    throw (.argument ("randrange() empty range (" ++ intText r.start ++ ", " ++ intText r.stop
      ++ ", " ++ intText r.step ++ ")"))
  return r

/-- A drawn value of a range, which must fit into 64 bits. -/
def randrange : Callable := fun args => do
  match stepped args with
  | .error e => throw e
  | .ok r =>
    let v ← r.draw
    if Reading.int64Min ≤ v ∧ v ≤ Reading.int64Max then return .int v
    else throw (.argument "randrange() result out of range")

/-- Two numbers. -/
def bounds (args : List Value) : Except Error (Double × Double) := do
  checkCount "uniform" args 2 2
  let lo ← double "uniform" (nth args 0)
  let hi ← double "uniform" (nth args 1)
  return (lo, hi)

/-- A list that is not empty. -/
def pool (args : List Value) : Except Error (List Value) :=
  match items args with
  | [] => .error (.argument "choice() from an empty sequence")
  | vs => .ok vs

/-- A list and how many of its items to take. -/
def portion (args : List Value) : Except Error (List Value × Nat) := do
  checkCount "sample" args 2 2
  match nth args 0 with
  | .list vs =>
    let k ← int "sample" (nth args 1)
    if k < 0 ∨ vs.length < k then
      throw (.argument "sample() larger than population or is negative")
    return (vs, k.toNat)
  | _ => throw (.argument "sample() expected a list")

/-- The module `random`. -/
def chance : Module where
  name := "random"
  functions :=
    [("randint", taking inclusive fun (lo, hi) => do return .int (← drawBetween lo hi)),
      ("random", taking (checkCount "random" · 0 0) fun _ => do
        return .ofDouble (← Surroundings.drawUnit)),
      ("uniform", taking bounds fun (lo, hi) => do
        return .ofDouble (lo.add ((hi.sub lo).mul (← Surroundings.drawUnit)))),
      ("choice", taking pool fun vs => Surroundings.pickOr .null vs),
      ("randrange", randrange),
      ("sample", taking portion fun (vs, k) => do return .list (← Surroundings.drawItems k vs)),
      ("shuffle", taking (fun args => .ok (items args)) fun vs => do
        return .list (← Surroundings.drawItems vs.length vs))]

end Library

end PageScript
