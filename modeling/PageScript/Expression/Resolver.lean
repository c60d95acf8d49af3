import PageScript.Expression.Namespace
import PageScript.Fake.Data
import PageScript.Literal.Parser
import PageScript.Token

/-!
# Resolving expressions

An expression is a tag and, behind a bar, its arguments.  The tag `eval` reads a literal, `vars`
looks up what was recorded, an imported name calls the function, and a name beginning with `fake_` or
`fake-` asks the source of synthetic data.  Any other tag is unresolved, which is an empty text or an
error.  Every value apart from a looked-up one is recorded under its tag.

A text that holds a token is replaced as a whole by the value of the token's body.  In an argument
the texts at the top, in a list, and in a list inside a list are resolved, from left to right.
-/

namespace PageScript

/-- What to do with a tag without meaning. -/
inductive Unresolved where
  /-- It stands for an empty text. -/
  | empty
  | error
deriving DecidableEq, Repr

/-- What expressions are resolved with. -/
structure Resolver where
  fake : FakeSource
  /-- What to do with a tag without meaning. -/
  unresolved : Unresolved

/-- What resolving changes: the namespace and the surroundings. -/
structure Scope where
  names : Namespace
  outside : Surroundings

/-- A step of resolving. -/
abbrev Resolving (α : Type) := ExceptT Error (StateM Scope) α

namespace Resolver

/-- An action on the surroundings alone. -/
def outside {α : Type} (action : Attempt α) : Resolving α := fun scope =>
  let (result, after) := action scope.outside
  (result, { scope with outside := after })

/-- The category that a tag asks for. -/
def category? (tag : String) : Option String :=
  let behind (start : String) : Option (List Char) := Text.stripFront start.toList tag.toList
  match (behind "fake_").or (behind "fake-") with
  | some (c :: cs) => some (String.ofList (c :: cs))
  | _ => none

/-- The tag of an expression and the text of its arguments. -/
def parts (body : String) : String × String :=
  match Text.splitOnce '|' body.toList with
  | some (tag, rest) => (String.ofList (Text.trim tag), String.ofList (Text.trim rest))
  | none => (Text.trimmed body, "")

/-- The arguments of a call: one list in brackets, or values between commas, each a literal or else
a text. -/
def callArguments (rest : String) : Except Error (List Value) :=
  match Text.trim rest.toList with
  | [] => .ok []
  | '[' :: cs =>
    match Literal.parse (String.ofList ('[' :: cs)) with
    | .error e => .error e
    | .ok (.list vs) => .ok [.list vs]
    | .ok v => .error (.expression ("expected a bracketed list, got " ++ v.toText))
  | cs => .ok ((Text.splitAll ',' cs).map Literal.coerce)

/-- The tag and the index that a look-up names. -/
def lookupTarget (rest : String) : Except Error (String × Nat) :=
  let named (name : List Char) (index : Nat) : Except Error (String × Nat) :=
    match Text.trim name with
    | [] => .error (.expression "vars requires a tag name")
    | cs => .ok (String.ofList cs, index)
  match Text.splitOnce ',' rest.toList with
  | none => named rest.toList 0
  | some (name, index) =>
    let index := Text.trim index
    match Reading.nat64? index with
    | some n => named name n
    | none => .error (.expression
        ("vars index must be a non-negative integer, got '" ++ String.ofList index ++ "'"))

/-- The value that is to be recorded under a tag other than `vars`. -/
def evaluate (r : Resolver) (tag rest : String) : Resolving Value := do
  let names := (← get).names
  if tag = "eval" then
    match Literal.parse rest with
    | .ok v => return v
    | .error e => throw e
  else if names.isImported tag then
    match callArguments rest with
    | .ok args => outside (names.call tag args)
    | .error e => throw e
  else match category? tag with
    | some category =>
      match ← outside (ExceptT.lift (r.fake category)) with
      | some v => return v
      | none => throw (.lookup ("unknown fake data category '" ++ category ++ "'"))
    | none =>
      match r.unresolved with
      | .empty => return .text ""
      | .error =>
        throw (.lookup ("'" ++ tag ++ "' is not imported and is not a known expression"))

/-- The value of an expression. -/
def resolve (r : Resolver) (body : String) : Resolving Value := do
  let (tag, rest) := parts body
  if tag = "vars" then
    match lookupTarget rest with
    | .error e => throw e
    | .ok (name, index) =>
      match (← get).names.lookup name index with
      | .ok v => return v
      | .error e => throw e
  else
    let v ← r.evaluate tag rest
    modify fun scope => { scope with names := scope.names.record tag v }
    return v

/-- A text with a token replaced by the token's value; anything else stays. -/
def resolveScalar (r : Resolver) : Value → Resolving Value
  | .text s =>
    match Token.body? s with
    | some body => r.resolve body
    | none => return .text s
  | v => return v

/-- Scalars resolved from left to right. -/
def resolveScalars (r : Resolver) : List Value → Resolving (List Value)
  | [] => return []
  | v :: vs => do
    let w ← r.resolveScalar v
    let ws ← r.resolveScalars vs
    return w :: ws

/-- The items of a list resolved from left to right; an item that is a list has its own items
resolved. -/
def resolveItems (r : Resolver) : List Value → Resolving (List Value)
  | [] => return []
  | v :: vs => do
    let w ← match v with
      | .list inner => do
        let inner ← r.resolveScalars inner
        pure (Value.list inner)
      | v => r.resolveScalar v
    let ws ← r.resolveItems vs
    return w :: ws

/-- The argument of a command with its expressions resolved. -/
def resolveValue (r : Resolver) : Value → Resolving Value
  | .list vs => do
    let ws ← r.resolveItems vs
    return .list ws
  | .object fields => return .object fields
  | v => r.resolveScalar v

end Resolver

end PageScript
