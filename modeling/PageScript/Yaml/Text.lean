import PageScript.Yaml.Plain
import PageScript.Yaml.Cell
import PageScript.Value.Text

/-!
# YAML texts of values

A value as a YAML text, in blocks: a list has a line with a dash for every item, and an object a line
for every field.  A list that is the value of a field is not indented further.  Only the empty list
and the empty object are written in brackets.

A text is written plain where that reads back as the same text, else in single quotes; a text with
line feeds is a block of its own, and one with characters that cannot be shown is in double quotes.
-/

namespace PageScript

namespace Yaml

/-! ## Choosing a spelling -/

/-- A character that separates lines, in any spelling. -/
def isLineBreak (c : Char) : Bool := isBreak c || c = '\r' || c = '\u0085'

/-- A character that can be shown. -/
def isPrintable (c : Char) : Bool :=
  let n := c.toNat
  n = 0xA || (0x20 ≤ n && n ≤ 0x7E) || (0xA0 ≤ n && n ≤ 0xFFFD && n ≠ 0xFEFF) || 0x10000 ≤ n

/-- The text is over, or a blank comes next. -/
def meetsGap : List Char → Bool
  | [] => true
  | c :: _ => isSpace c || isLineBreak c || c = '\x00'

/-- What a text has that decides its spelling. -/
structure Traits where
  /-- It has a mark that a plain text must not have. -/
  marked : Bool
  broken : Bool
  /-- It has a character that cannot be shown. -/
  special : Bool
  /-- It has a space behind a line break. -/
  breakSpace : Bool
  /-- It has a line break behind a space. -/
  spaceBreak : Bool

/-- A character that marks something at the beginning of a text. -/
def isOpeningMark (c : Char) : Bool :=
  isBracketMark c || ['#', '&', '*', '!', '|', '>', '\'', '"', '%', '@', '\x60'].contains c
where
  /-- A bracket or a comma. -/
  isBracketMark (c : Char) : Bool := [',', '[', ']', '{', '}'].contains c

/-- A mark at the beginning of a text. -/
def beginsMarked : List Char → Bool
  | '-' :: '-' :: '-' :: _ => true
  | '.' :: '.' :: '.' :: _ => true
  | c :: rest => isOpeningMark c || (['?', ':', '-'].contains c && meetsGap rest)
  | [] => false

/-- The traits of a text; `before` is the character in front. -/
def traitsFrom (before : Char) : List Char → Traits → Traits
  | [], t => t
  | c :: rest, t =>
    let afterGap := isSpace before || isLineBreak before || before = '\x00'
    traitsFrom c rest
      { marked := t.marked || (c = ':' && meetsGap rest) || (c = '#' && afterGap)
        broken := t.broken || isLineBreak c
        special := t.special || !isPrintable c
        breakSpace := t.breakSpace || (c = ' ' && isLineBreak before)
        spaceBreak := t.spaceBreak || (isLineBreak c && before = ' ') }

/-- The traits of a text. -/
def traits : List Char → Traits
  | [] => ⟨false, false, false, false, false⟩
  | c :: rest =>
    traitsFrom c rest
      ⟨beginsMarked (c :: rest), isLineBreak c, !isPrintable c, false, false⟩

/-- The spelling of a text. -/
inductive Spelling where
  | plain
  | single
  | double
  | block
deriving DecidableEq

/-- The spelling of a text, `asKey` in front of a colon on the same line. -/
def spelling (cs : List Char) (asKey : Bool) : Spelling :=
  let t := traits cs
  let atEdge (c : Option Char) : Bool := c.any fun c => c = ' ' || isLineBreak c
  let hidden := t.spaceBreak || t.special
  if cs.contains '\n' then
    if hidden || cs.getLast? = some ' ' || asKey then .double else .block
  else
    let plainFits := !(needsQuotes (String.ofList cs) || atEdge cs.head? || atEdge cs.getLast?
      || t.breakSpace || hidden || t.broken || t.marked)
    if plainFits then .plain
    else if t.breakSpace || hidden then .double
    else .single

/-- A name that is written in front of its colon on one line. -/
def isShortName (cs : List Char) : Bool :=
  !cs.any isLineBreak && (String.ofList cs).utf8ByteSize ≤ 128

/-! ## Writing -/

/-- A text that is being written. -/
structure Sheet where
  /-- What is written, last character first. -/
  written : List Char
  column : Nat
  spaced : Bool
  /-- Only indentation and marks stand in the line. -/
  fresh : Bool

namespace Sheet

/-- The empty sheet. -/
def empty : Sheet := ⟨[], 0, true, true⟩

/-- A character written. -/
def put (s : Sheet) (c : Char) : Sheet :=
  { s with written := c :: s.written, column := s.column + 1 }

/-- A line break written. -/
def putBreak (s : Sheet) (c : Char) : Sheet := { s with written := c :: s.written, column := 0 }

/-- Characters written. -/
def putAll (s : Sheet) (cs : List Char) : Sheet := cs.foldl put s

/-- Moves to the indentation of a line, beginning a new line if need be. -/
def indent (s : Sheet) (column : Nat) : Sheet :=
  let s := if !s.fresh || column < s.column || (s.column = column && !s.spaced) then
    s.putBreak '\n' else s
  { s.putAll (List.replicate (column - s.column) ' ') with spaced := true, fresh := true }

/-- A mark, with a space in front if one is needed. -/
def mark (s : Sheet) (text : String) (apart spaced fresh : Bool) : Sheet :=
  let s := if apart && !s.spaced then s.put ' ' else s
  { s.putAll text.toList with spaced, fresh := s.fresh && fresh }

/-- The text is no longer fresh. -/
def used (s : Sheet) : Sheet := { s with spaced := false, fresh := false }

/-- A plain text. -/
def plain (s : Sheet) (cs : List Char) : Sheet :=
  let s := if s.spaced || cs.isEmpty then s else s.put ' '
  (s.putAll cs).used

/-- The characters between single quotes; `broken` tells that a line break was written last. -/
def singleBody (column : Nat) : (broken : Bool) → Sheet → List Char → Sheet
  | broken, s, [] => if broken then s.indent column else s
  | broken, s, c :: rest =>
    if c = ' ' then singleBody column broken (s.put c) rest
    else if isLineBreak c then
      singleBody column true { s.putBreak c with fresh := true } rest
    else
      let s := if broken then s.indent column else s
      let s := if c = '\'' then s.put '\'' else s
      singleBody column false { s.put c with fresh := false } rest

/-- A text in single quotes. -/
def single (s : Sheet) (column : Nat) (cs : List Char) : Sheet :=
  ((singleBody column false (s.mark "'" true false false) cs).mark "'" false false false).used

/-- Upper-case hexadecimal digits of a number, as many as asked for. -/
def hexDigits (n : Nat) : Nat → List Char
  | 0 => []
  | width + 1 => hexDigits (n / 16) width ++ [(Nat.digitChar (n % 16)).toUpper]

/-- A character between double quotes. -/
def doubleChar (c : Char) : List Char :=
  if isPrintable c && !isLineBreak c && c ≠ '"' && c ≠ '\\' then [c]
  else '\\' :: match c with
    | '\x00' => ['0']
    | '\x07' => ['a']
    | '\x08' => ['b']
    | '\t' => ['t']
    | '\n' => ['n']
    | '\x0b' => ['v']
    | '\x0c' => ['f']
    | '\r' => ['r']
    | '\x1b' => ['e']
    | '"' => ['"']
    | '\\' => ['\\']
    | '\u0085' => ['N']
    | '\u2028' => ['L']
    | '\u2029' => ['P']
    | c =>
      let n := c.toNat
      if n ≤ 0xFF then 'x' :: hexDigits n 2
      else if n ≤ 0xFFFF then 'u' :: hexDigits n 4
      else 'U' :: hexDigits n 8

/-- A text in double quotes. -/
def double (s : Sheet) (cs : List Char) : Sheet :=
  (((s.mark "\"" true false false).putAll (cs.flatMap doubleChar)).mark "\"" false false false).used

/-- The signs of a block: the indentation where the text begins with a blank, and what becomes of
the line breaks at its end. -/
def blockSigns (cs : List Char) : List Char :=
  let indentation := match cs with
    | c :: _ => if c = ' ' || isLineBreak c then ['2'] else []
    | [] => []
  let ending := match cs.reverse with
    | [] => ['-']
    | [c] => if isLineBreak c then ['+'] else ['-']
    | c :: d :: _ => if !isLineBreak c then ['-'] else if isLineBreak d then ['+'] else []
  indentation ++ ending

/-- The lines of a block. -/
def blockBody (column : Nat) : (broken : Bool) → Sheet → List Char → Sheet
  | _, s, [] => s
  | broken, s, c :: rest =>
    if isLineBreak c then blockBody column true { s.putBreak c with fresh := true } rest
    else
      let s := if broken then s.indent column else s
      blockBody column false { s.put c with fresh := false } rest

/-- A text as a block of lines. -/
def block (s : Sheet) (column : Nat) (cs : List Char) : Sheet :=
  let s := (s.mark "|" true false false).mark (String.ofList (blockSigns cs)) false false false
  blockBody column true { s.putBreak '\n' with spaced := true, fresh := true } cs

/-- A text; `column` is the indentation of its lines. -/
def text (s : Sheet) (column : Nat) (cs : List Char) (asKey : Bool) : Sheet :=
  match spelling cs asKey with
  | .plain => s.plain cs
  | .single => s.single column cs
  | .double => s.double cs
  | .block => s.block column cs

/-- The name of a field and the colon.  `column` is the indentation of the object.  Whether the value
may begin a list without further indentation is told with it. -/
def name (s : Sheet) (column : Nat) (cs : List Char) : Sheet :=
  let s := s.indent column
  if isShortName cs then (s.text (column + 2) cs true).mark ":" false false false
  else
    let s := (s.mark "?" true false true).text (column + 2) cs false
    (s.indent column).mark ":" true false true

mutual

/-- A value.  `column` is the indentation of what stands around it, if anything does, and `inField`
tells that it is the value of a field. -/
def value (s : Sheet) (column : Option Nat) (inField : Bool) : Value → Sheet
  | .null => s.plain "null".toList
  | .bool b => s.plain (if b then "true" else "false").toList
  | .number (.integer n) => s.plain (intText n).toList
  | .number (.real x) => s.plain (Layout.yaml.text x).toList
  | .text t => s.text (column.elim 2 (· + 2)) t.toList false
  | .list [] => (s.mark "[" true true false).mark "]" false false false
  | .list vs =>
    items s (match column with
      | none => 0
      | some n => if inField && !s.fresh then n else n + 2) vs
  | .object [] => (s.mark "\x7b" true true false).mark "\x7d" false false false
  | .object fs => fields s (column.elim 0 (· + 2)) fs

/-- The items of a list. -/
def items (s : Sheet) (column : Nat) : List Value → Sheet
  | [] => s
  | v :: vs =>
    items (value ((s.indent column).mark "-" true false true) (some column) false v) column vs

/-- The fields of an object. -/
def fields (s : Sheet) (column : Nat) : List (String × Value) → Sheet
  | [] => s
  | (k, v) :: fs => fields (value (s.name column k.toList) (some column) true v) column fs

end

end Sheet

/-- A value as a YAML text. -/
def text (v : Value) : String :=
  String.ofList ('\n' :: (Sheet.value .empty none false v).written).reverse

example : text (.list [.object [("a", .list [.int 1, .text "b"])], .text "c"])
    = "- a:\n  - 1\n  - b\n- c\n" := by decide +kernel

end Yaml

end PageScript
