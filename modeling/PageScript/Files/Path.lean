import PageScript.Text.Pieces
import PageScript.Text.Case

/-!
# Paths

A path is a text whose parts are separated by slashes.  Empty parts and dots between slashes mean
nothing, apart from a dot in front, which is a part of its own.  Nothing here looks at a file
system: joining, taking the directory of a path and finding its extension are functions on texts,
and what they leave of a path keeps its spelling.
-/

namespace PageScript

namespace Path

/-- The path begins at the root. -/
def isAbsolute (path : String) : Bool := path.toList.head? = some '/'

/-- A path taken from a directory.  An absolute path stands for itself. -/
def join (base path : String) : String :=
  if isAbsolute path then path
  else if base.toList.getLast?.all (· = '/') then base ++ path
  else base ++ "/" ++ path

/-- The front of a path that is not a part like the others, a root or a dot, and the rest. -/
def splitFront : List Char → List Char × List Char
  | '/' :: rest => (['/'], rest)
  | ['.'] => (['.'], [])
  | '.' :: '/' :: rest => (['.'], '/' :: rest)
  | cs => ([], cs)

/-- Cuts parts that mean nothing off the end of a reversed path body. -/
def trimEnd : List Char → List Char
  | '/' :: rest => trimEnd rest
  | ['.'] => []
  | '.' :: '/' :: rest => trimEnd rest
  | cs => cs

/-- The last part of a path and what stands before it.  A root has no last part. -/
def splitName (path : String) : Option (String × String) :=
  let (front, body) := splitFront path.toList
  match trimEnd body.reverse with
  | [] => if front = ['.'] then some ("", ".") else none
  | back =>
    let name := (back.takeWhile (· ≠ '/')).reverse
    let before := (trimEnd (back.dropWhile (· ≠ '/'))).reverse
    some (String.ofList (front ++ before), String.ofList name)

/-- The directory that holds what a path names; there is none for a root and the empty path. -/
def parent? (path : String) : Option String := (splitName path).map (·.1)

/-- The extension of the name at the end of a path: what stands behind its last dot.  A name has no
extension when its only dot is in front, and neither have one or two dots alone. -/
def extension? (path : String) : Option String :=
  match splitName path with
  | none => none
  | some (_, name) =>
    if name = "." ∨ name = ".." then none
    else match Text.splitLast '.' name.toList with
      | some (_ :: _, ext) => some (String.ofList ext)
      | _ => none

/-- The extension in lower case, as far as it has ASCII letters. -/
def kind? (path : String) : Option String :=
  (extension? path).map fun ext => String.ofList (Text.asciiLower ext.toList)

example : parent? "a//b.json" = some "a" := by decide +kernel
example : parent? "./a" = some "." := by decide +kernel
example : parent? "/a" = some "/" ∧ parent? "/" = none ∧ parent? "a/." = some "" := by decide +kernel
example : kind? "x/a.b.JSON" = some "json" ∧ kind? ".yaml" = none := by decide +kernel
example : join "a" "b" = "a/b" ∧ join "" "b" = "b" ∧ join "a" "/b" = "/b" := by decide +kernel

end Path

end PageScript
