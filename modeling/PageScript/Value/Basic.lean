import PageScript.Number.Double

/-!
# Values

The dynamic values that scripts hold, pass to operations and record: null, booleans, numbers, texts,
lists and objects.  A number is an integer or a binary64 number, and the two kinds are never equal.
An object is a list of fields in the order in which their names were first written.

`Value.same` is equality of values: structural, except that the two zeros of binary64 are equal.
-/

namespace PageScript

/-- A number of a value. -/
inductive Number where
  | integer (n : Int)
  | real (x : Double)
deriving DecidableEq, Repr, Inhabited

namespace Number

/-- Equality of numbers; an integer and a binary64 number differ. -/
def same : Number → Number → Bool
  | .integer m, .integer n => m == n
  | .real x, .real y => x.same y
  | _, _ => false

/-- The nearest binary64 number. -/
def toDouble : Number → Double
  | .integer n => .ofInt n
  | .real x => x

end Number

/-- A dynamic value. -/
inductive Value where
  | null
  | bool (b : Bool)
  | number (n : Number)
  | text (s : String)
  | list (items : List Value)
  /-- An object: fields by name, in the order first written. -/
  | object (fields : List (String × Value))
deriving Repr, Inhabited

namespace Value

/-- An integer as a value. -/
def int (n : Int) : Value := .number (.integer n)

/-- A binary64 number as a value; what is not finite becomes null. -/
def ofDouble (x : Double) : Value := if x.isFinite then .number (.real x) else .null

/-- The value is null. -/
def isNull : Value → Bool
  | .null => true
  | _ => false

mutual

/-- Equality of values. -/
def same : Value → Value → Bool
  | .null, .null => true
  | .bool a, .bool b => a == b
  | .number a, .number b => a.same b
  | .text a, .text b => a == b
  | .list xs, .list ys => sameList xs ys
  | .object fs, .object gs => fs.length == gs.length && sameFields fs gs
  | _, _ => false

/-- Equality of lists, item by item. -/
def sameList : List Value → List Value → Bool
  | [], [] => true
  | x :: xs, y :: ys => same x y && sameList xs ys
  | _, _ => false

/-- Every field of the first object is in the second with an equal value. -/
def sameFields : List (String × Value) → List (String × Value) → Bool
  | [], _ => true
  | (k, v) :: fs, gs =>
    (match gs.lookup k with
      | some w => same v w
      | none => false) && sameFields fs gs

end

instance : BEq Value := ⟨same⟩

/-! ## Fields -/

/-- A field set in an object: an old name keeps its place, a new one goes to the end. -/
def insertField (name : String) (v : Value) : List (String × Value) → List (String × Value)
  | [] => [(name, v)]
  | (k, w) :: fs => if k = name then (k, v) :: fs else (k, w) :: insertField name v fs

/-- A field of an object by name. -/
def field? (name : String) : List (String × Value) → Option Value
  | [] => none
  | (k, v) :: fs => if k = name then some v else field? name fs

/-- The names of an object, in order. -/
def names (fs : List (String × Value)) : List String := fs.map (·.1)

theorem insertField_of_not_mem {name : String} {fs : List (String × Value)} (h : name ∉ names fs)
    (v : Value) : insertField name v fs = fs ++ [(name, v)] := by
  induction fs with
  | nil => rfl
  | cons f fs ih =>
    obtain ⟨k, w⟩ := f
    rw [names, List.map_cons, List.mem_cons, not_or] at h
    rw [insertField, if_neg (Ne.symm h.1), ih h.2, List.cons_append]

/-- A name that stands once is not among those in front of it. -/
theorem new_name {name : String} {v : Value} {done fs : List (String × Value)}
    (h : (names (done ++ (name, v) :: fs)).Nodup) : name ∉ names done := by
  rw [names, List.map_append, List.map_cons, List.nodup_append] at h
  intro hmem
  exact h.2.2 name hmem name List.mem_cons_self rfl

end Value

end PageScript
