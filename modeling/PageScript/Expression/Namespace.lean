import PageScript.Library.Module

/-!
# Namespaces

A namespace holds what one run has imported and recorded.  An import keeps its name for good: a
later import of the same name changes nothing.  Records are kept in one journal in the order in
which they were made; the history of a tag is the part of the journal under that tag, so a history
only ever grows at its end.
-/

namespace PageScript

/-- The imported functions and the recorded values of a run. -/
structure Namespace where
  imported : List (String × Callable)
  /-- Every recorded value with its tag, oldest first. -/
  journal : List (String × Value)

namespace Namespace

/-- Nothing imported, nothing recorded. -/
def empty : Namespace := ⟨[], []⟩

/-! ## Imports -/

/-- The function of a name. -/
def function? (ns : Namespace) (name : String) : Option Callable := ns.imported.lookup name

/-- The name is imported. -/
def isImported (ns : Namespace) (name : String) : Bool := (ns.function? name).isSome

/-- Imports a function under a name that is not yet imported. -/
def addImport (ns : Namespace) (name : String) (f : Callable) : Namespace :=
  if ns.isImported name then ns else { ns with imported := ns.imported ++ [(name, f)] }

/-- The imported names, sorted. -/
def importedNames (ns : Namespace) : List String :=
  (ns.imported.map (·.1)).mergeSort fun a b => a ≤ b

/-- Calls an imported function. -/
def call (ns : Namespace) (name : String) (args : List Value) : Attempt Value :=
  match ns.function? name with
  | some f => f args
  | none => throw (.lookup ("'" ++ name ++ "' has not been imported"))

/-! ## Records -/

/-- Records a value under a tag. -/
def record (ns : Namespace) (tag : String) (v : Value) : Namespace :=
  { ns with journal := ns.journal ++ [(tag, v)] }

/-- The values recorded under a tag, oldest first. -/
def history (ns : Namespace) (tag : String) : List Value :=
  ns.journal.filterMap fun (t, v) => if t = tag then some v else none

/-- A value of the history of a tag. -/
def lookup (ns : Namespace) (tag : String) (index : Nat) : Except Error Value :=
  let values := ns.history tag
  match values[index]? with
  | some v => .ok v
  | none =>
    if values.isEmpty then .error (.lookup ("no results recorded for '" ++ tag ++ "'"))
    else .error (.lookup ("index " ++ Nat.repr index ++ " out of range for '" ++ tag ++ "' ("
      ++ Nat.repr values.length ++ " recorded)"))

theorem history_record_self (ns : Namespace) (tag : String) (v : Value) :
    (ns.record tag v).history tag = ns.history tag ++ [v] := by
  simp [record, history]

theorem history_record_ne {tag other : String} (h : other ≠ tag) (ns : Namespace) (v : Value) :
    (ns.record tag v).history other = ns.history other := by
  simp [record, history, Ne.symm h]

end Namespace

end PageScript
