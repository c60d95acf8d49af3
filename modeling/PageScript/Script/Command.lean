import PageScript.Arguments
import PageScript.Expression.Resolver

/-!
# Commands

A command is a name and perhaps an argument.  As a value it is its name alone, or an object whose
only field has that name.  An argument that is null counts as none.
-/

namespace PageScript

/-- One step of a script. -/
structure Command where
  name : String
  argument : Option Value
deriving Repr

namespace Command

/-- A command with an argument, which null leaves out. -/
def withArgument (name : String) (v : Value) : Command :=
  ⟨name, if v.isNull then none else some v⟩

/-- The command as a value. -/
def toValue (c : Command) : Value :=
  match c.argument with
  | none => .text c.name
  | some v => .object [(c.name, v)]

/-- The command on one line. -/
def text (c : Command) : String :=
  match c.argument with
  | none => c.name
  | some v => c.name ++ ": " ++ v.toText

/-- The arguments of a command with their expressions resolved. -/
def arguments (c : Command) (r : Resolver) : Resolving Arguments :=
  match c.argument with
  | none => return ⟨c.name, Arguments.shape none⟩
  | some v => do
    let w ← r.resolveValue v
    return ⟨c.name, Arguments.shape (some w)⟩

end Command

end PageScript
