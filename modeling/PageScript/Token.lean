import PageScript.Text.Pieces

/-!
# Expression tokens

A token is a stretch of a text in double parentheses, `(( body ))`.  It begins at the first `((`.
It ends at the first `))` that is not inside quotes or inner parentheses, so a body may hold a tuple
or a quoted closing mark.  The body is what stands between, without blanks at its ends.
-/

namespace PageScript

namespace Token

/-- What stands behind the first `((`. -/
def behindOpening : List Char → Option (List Char)
  | [] => none
  | c :: cs =>
    match cs with
    | d :: rest => if c = '(' ∧ d = '(' then some rest else behindOpening cs
    | [] => none

/-- The text up to the `))` that ends the token.  `quote` is the quote that is open, `depth` the
number of open inner parentheses, and `done` what has been passed, last first. -/
def scan : Option Char → Nat → List Char → List Char → Option (List Char)
  | _, _, _, [] => none
  | some q, depth, done, c :: cs =>
    scan (if c = q then none else some q) depth (c :: done) cs
  | none, depth, done, c :: cs =>
    if c = '\'' ∨ c = '"' then scan (some c) depth (c :: done) cs
    else if c = '(' then scan none (depth + 1) (c :: done) cs
    else if c = ')' then
      match depth with
      | depth + 1 => scan none depth (c :: done) cs
      | 0 => if cs.head? = some ')' then some done.reverse else scan none 0 (c :: done) cs
    else scan none depth (c :: done) cs

/-- The body of the first token of a text. -/
def find (text : List Char) : Option (List Char) :=
  match behindOpening text with
  | none => none
  | some rest => (scan none 0 [] rest).map Text.trim

/-- The body of the first token of a text. -/
def body? (text : String) : Option String := (find text.toList).map String.ofList

example : body? "a (( eval|(1, 2) )) b" = some "eval|(1, 2)" := by decide +kernel
example : body? "(( '))' ))" = some "'))'" := by decide +kernel
example : body? "((x)" = none := by decide +kernel

end Token

end PageScript
