/-!
# Output

What a program lets out while it runs, in one stream: texts that it prints, and notes.  A note has a
level of weight, by which a reader may leave notes out.
-/

namespace PageScript

/-- How weighty a note is. -/
inductive Level where
  | error
  | warn
  | info
deriving DecidableEq, Repr

/-- One piece of output. -/
inductive Output where
  | text (s : String)
  | note (level : Level) (text : String)
deriving DecidableEq, Repr

namespace Output

/-- The printed text, if the piece is one. -/
def text? : Output → Option String
  | .text s => some s
  | _ => none

/-- The note, if the piece is one. -/
def note? : Output → Option (Level × String)
  | .note level t => some (level, t)
  | _ => none

end Output

end PageScript
