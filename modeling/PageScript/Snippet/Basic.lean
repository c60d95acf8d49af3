import PageScript.Value.Text
import PageScript.Text.Pieces

/-!
# Snippets

Code that runs inside a page.  A snippet is a list of pieces, of which some are fixed code and some
are texts from outside.  A text from outside stands in the code as a string literal, so it cannot be
anything but that text to the page, whatever it holds.

`Snippet.frame` is a snippet with its given texts left out.
-/

namespace PageScript

/-- A piece of a snippet. -/
inductive Piece where
  | code (text : String)
  | given (text : String)
deriving DecidableEq, Repr

/-- Code with given texts in it. -/
abbrev Snippet := List Piece

namespace Piece

/-- The code of a piece. -/
def text : Piece → String
  | .code s => s
  | .given s => Quoted.literal s

/-- The given text of a piece. -/
def given? : Piece → Option String
  | .code _ => none
  | .given s => some s

/-- A piece without its given text. -/
def blank : Piece → Piece
  | .code s => .code s
  | .given _ => .given ""

end Piece

namespace Snippet

/-- The code of a snippet. -/
def text (s : Snippet) : String := Text.join "" (s.map Piece.text)

/-- The texts from outside, in order. -/
def givenTexts (s : Snippet) : List String := s.filterMap Piece.given?

/-- A snippet without its given texts. -/
def frame (s : Snippet) : Snippet := s.map Piece.blank

end Snippet

end PageScript
