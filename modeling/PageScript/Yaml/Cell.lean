import PageScript.Text.Pieces

/-!
# Placed characters

A YAML text as a list of characters with their places.  The indentation rules of YAML look at
columns, and a key must lie on one line, so every character knows its line, its column and its
index.  Line ends are brought to one spelling here: a carriage return, with or without a line feed,
and the next-line character count as a line feed.
-/

namespace PageScript

namespace Yaml

/-- A place in a text, counted from zero. -/
structure Place where
  line : Nat
  column : Nat
  /-- The number of characters in front. -/
  index : Nat
deriving DecidableEq, Repr

/-- A character with its place. -/
structure Cell where
  char : Char
  place : Place
deriving Repr

/-- A character that may stand in a YAML text. -/
def isAllowed (c : Char) : Bool :=
  let n := c.toNat
  n = 0x9 || n = 0xA || n = 0xD || (0x20 ≤ n && n ≤ 0x7E) || n = 0x85 || (0xA0 ≤ n && n ≤ 0xFFFD)
    || 0x10000 ≤ n

/-- A line end; two further characters separate lines but keep their spelling. -/
def isBreak (c : Char) : Bool := c = '\n' || c = '\u2028' || c = '\u2029'

/-- A blank inside a line. -/
def isSpace (c : Char) : Bool := c = ' ' || c = '\t'

/-- The place behind a character. -/
def Place.after (p : Place) (c : Char) : Place :=
  if isBreak c then ⟨p.line + 1, 0, p.index + 1⟩ else ⟨p.line, p.column + 1, p.index + 1⟩

/-- The characters with their places, and the place behind them. -/
def place (p : Place) : List Char → List Cell × Place
  | [] => ([], p)
  | '\r' :: '\n' :: cs =>
    let (cells, last) := place ⟨p.line + 1, 0, p.index + 2⟩ cs
    (⟨'\n', p⟩ :: cells, last)
  | c :: cs =>
    let c := if c = '\r' || c = '\u0085' then '\n' else c
    let (cells, last) := place (p.after c) cs
    (⟨c, p⟩ :: cells, last)

/-- The first character. -/
def head? : List Cell → Option Char
  | [] => none
  | x :: _ => some x.char

/-- The text is over, or a blank or a line end comes next. -/
def atGap : List Cell → Bool
  | [] => true
  | x :: _ => isSpace x.char || isBreak x.char

/-- The text is over, or a line end comes next. -/
def atLineEnd : List Cell → Bool
  | [] => true
  | x :: _ => isBreak x.char

/-- The text without the characters in front that satisfy a test. -/
def skipWhile (p : Char → Bool) (cells : List Cell) : List Cell :=
  cells.dropWhile fun x => p x.char

/-- The characters in front that satisfy a test. -/
def readWhile (p : Char → Bool) (cells : List Cell) : List Char :=
  (cells.takeWhile fun x => p x.char).map (·.char)

/-- The rest of the line is skipped. -/
def skipLine (cells : List Cell) : List Cell := skipWhile (fun c => !isBreak c) cells

/-- Three times the given character at the beginning of a line, followed by a gap. -/
def isLineMark (c : Char) : List Cell → Bool
  | x :: y :: z :: rest =>
    x.place.column = 0 && x.char = c && y.char = c && z.char = c && atGap rest
  | _ => false

/-- A mark between documents. -/
def isDocumentMark (cells : List Cell) : Bool := isLineMark '-' cells || isLineMark '.' cells

/-- A character of names of anchors, handles and directives. -/
def isNameChar (c : Char) : Bool :=
  ('0' ≤ c && c ≤ '9') || ('A' ≤ c && c ≤ 'Z') || ('a' ≤ c && c ≤ 'z') || c = '_' || c = '-'

end Yaml

end PageScript
