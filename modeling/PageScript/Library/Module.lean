import PageScript.Surroundings
import PageScript.Text.Pieces
import PageScript.Text.Shown

/-!
# Modules of functions

Functions that a script may call stand in named modules.  A registry holds the modules that a script
may import from; of two modules with one name the later counts.  Functions of a module are listed by
name.
-/

namespace PageScript

/-- A function that a script may call. -/
abbrev Callable := List Value → Attempt Value

/-- A named set of functions. -/
structure Module where
  name : String
  /-- The functions by name; the first of a name counts. -/
  functions : List (String × Callable)

namespace Module

/-- A function by name. -/
def function? (m : Module) (name : String) : Option Callable := m.functions.lookup name

/-- The names of the functions, sorted and each once. -/
def functionNames (m : Module) : List String :=
  ((m.functions.map (·.1)).eraseDups).mergeSort (fun a b => a ≤ b)

/-- The text that shows a module to its developers. -/
def described (m : Module) : String :=
  "Module \x7b name: " ++ Text.shown m.name ++ ", functions: " ++ Text.shownList m.functionNames
    ++ " \x7d"

end Module

/-- The modules that a script may import from. -/
structure Registry where
  /-- The modules; the first of a name counts. -/
  modules : List Module

namespace Registry

/-- A registry without modules. -/
def empty : Registry := ⟨[]⟩

/-- A module by name. -/
def module? (r : Registry) (name : String) : Option Module :=
  r.modules.find? fun m => m.name = name

/-- One more module; it hides an older one of its name. -/
def register (r : Registry) (m : Module) : Registry := ⟨m :: r.modules⟩

/-- A function by the name of its module and its own. -/
def function? (r : Registry) (module function : String) : Option Callable :=
  (r.module? module).bind (·.function? function)

end Registry

end PageScript
