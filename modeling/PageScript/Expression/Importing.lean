import PageScript.Expression.Namespace

/-!
# Importing

What an import names: a whole module, whose functions are imported under the name of the module, a
dot and their own; or one function of a module, imported under its own name.  A name with dots that
is the name of a module means the module.  Every run begins with a few imports of its own.
-/

namespace PageScript

namespace Importing

/-- Imports functions in order; the names that were new are given back. -/
def addAll (ns : Namespace) : List (String × Callable) → List String × Namespace
  | [] => ([], ns)
  | (name, f) :: rest =>
    let (names, after) := addAll (ns.addImport name f) rest
    (if ns.isImported name then names else name :: names, after)

/-- The functions of a module under their full names, sorted. -/
def qualified (m : Module) : List (String × Callable) :=
  m.functionNames.filterMap fun name =>
    (m.function? name).map fun f => (m.name ++ "." ++ name, f)

/-- What a specification without blanks around it names: functions with the names to import them
under. -/
def find (r : Registry) (spec : String) : Except Error (List (String × Callable)) :=
  let unknown (name : String) : Except Error (List (String × Callable)) :=
    .error (.lookup ("no module named '" ++ name ++ "'"))
  match r.module? spec with
  | some m => .ok (qualified m)
  | none =>
    match Text.splitLast '.' spec.toList with
    | none => unknown spec
    | some (front, back) =>
      let moduleName := String.ofList front
      let name := String.ofList back
      match r.module? moduleName with
      | none => unknown moduleName
      | some m =>
        match m.function? name with
        | some f => .ok [(name, f)]
        | none => .error (.lookup
            ("module '" ++ moduleName ++ "' has no callable '" ++ name ++ "'"))

/-- Imports what a specification names; the names that were new are given back. -/
def importSpec (r : Registry) (spec : String) (ns : Namespace) :
    Except Error (List String × Namespace) :=
  let spec := Text.trimmed spec
  if spec.isEmpty then .error (.argument "import requires a module name")
  else match find r spec with
    | .error e => .error e
    | .ok functions => .ok (addAll ns functions)

/-- The imports that every run begins with: a name, a module and its function. -/
def usual : List (String × String × String) :=
  [("randint", "random", "randint"), ("random", "random", "random"),
    ("choice", "random", "choice"), ("prompt", "utils", "prompt")]

/-- A namespace with the usual imports, as far as the registry has them. -/
def withUsual (r : Registry) (ns : Namespace) : Namespace :=
  (addAll ns (usual.filterMap fun (name, module, function) =>
    (r.function? module function).map fun f => (name, f))).2

end Importing

end PageScript
