import PageScript.Yaml.Lexeme

/-!
# YAML tokens

A YAML text is cut into tokens: scalars, the marks of the language, and the beginnings and ends of
blocks, which the indentation decides.  What is written before a colon is a key, but that is known
only at the colon.  So every place where a key may begin is remembered as a candidate, one for each
level of brackets, and the tokens that make it a key are put in front of it later.

A text with a fault has the tokens in front of it.  A token that might still have become a key when
the fault was met, and all tokens behind it, are not among them.
-/

namespace PageScript

namespace Yaml

/-- How a scalar is written. -/
inductive ScalarForm where
  | plain
  | quoted
  /-- A block whose lines are kept. -/
  | literal
  /-- A block whose lines are joined. -/
  | folded
deriving DecidableEq, Repr

/-- A token of a YAML text. -/
inductive Token where
  | streamEnd
  | directive (d : Directive)
  /-- The mark in front of a document. -/
  | documentStart
  | documentEnd
  | blockListStart
  | blockMapStart
  | blockEnd
  | flowListStart
  | flowListEnd
  | flowMapStart
  | flowMapEnd
  | blockEntry
  | flowEntry
  | key
  /-- The value of a key follows. -/
  | value
  /-- A node that was named before. -/
  | alias (name : String)
  /-- The name of the node that follows. -/
  | anchor (name : String)
  /-- The tag of the node that follows. -/
  | tag (t : TagText)
  | scalar (text : String) (form : ScalarForm)

/-- A place where a key may have begun. -/
structure Candidate where
  /-- The number of tokens in front of it. -/
  number : Nat
  place : Place
  /-- Nothing but a key can stand there. -/
  required : Bool

/-- The state of the cutting. -/
structure Scanner where
  tokens : List Token
  count : Nat
  /-- The column of the innermost block, less than zero outside any. -/
  indent : Int
  /-- The columns of the outer blocks. -/
  indents : List Int
  /-- The candidate of every level of brackets, innermost first. -/
  candidates : List (Option Candidate)
  keyAllowed : Bool

namespace Scanner

/-- The state at the beginning. -/
def start : Scanner := ⟨[], 0, -1, [], [none], true⟩

/-- The text stands inside brackets. -/
def inBrackets (s : Scanner) : Bool := 1 < s.candidates.length

/-- One more token. -/
def push (s : Scanner) (t : Token) : Scanner :=
  { s with tokens := t :: s.tokens, count := s.count + 1 }

/-- A token put in front of the token of a number. -/
def insert (s : Scanner) (number : Nat) (t : Token) : Scanner :=
  let behind := s.count - number
  { s with tokens := s.tokens.take behind ++ t :: s.tokens.drop behind, count := s.count + 1 }

/-! ## Indentation -/

/-- Ends the blocks that are indented beyond a column, given the columns of the outer blocks. -/
def endBlocks (column : Int) : List Int → Scanner → Scanner
  | [], s => s
  | outer :: rest, s =>
    if column < s.indent then
      endBlocks column rest { s.push .blockEnd with indent := outer, indents := rest }
    else s

/-- Ends the blocks that are indented beyond a column. -/
def unroll (s : Scanner) (column : Int) : Scanner :=
  if s.inBrackets then s else endBlocks column s.indents s

/-- Begins a block at a column, unless one of that column is open; its token goes in front of the
token of a number. -/
def roll (s : Scanner) (column number : Nat) (t : Token) : Scanner :=
  if s.inBrackets || (column : Int) ≤ s.indent then s
  else { s.insert number t with indent := column, indents := s.indent :: s.indents }

/-! ## Candidates for keys -/

/-- A candidate from an earlier line or from too far back can be no key any more. -/
def Candidate.isStale (k : Candidate) (here : Place) : Bool :=
  k.place.line < here.line || k.place.index + 1024 < here.index

/-- Drops the candidates that can be no key any more; a fault if one had to be. -/
def dropStale (s : Scanner) (here : Place) : Option Scanner :=
  let stale (k : Option Candidate) : Bool := k.any (Candidate.isStale · here)
  if s.candidates.any fun k => stale k && k.any (·.required) then none
  else some { s with candidates := s.candidates.map fun k => if stale k then none else k }

/-- Drops the candidate of this level; a fault if it had to be a key. -/
def dropCandidate (s : Scanner) : Option Scanner :=
  match s.candidates with
  | some k :: outer => if k.required then none else some { s with candidates := none :: outer }
  | _ => some s

/-- Remembers that a key may begin here. -/
def saveCandidate (s : Scanner) (here : Place) : Option Scanner :=
  if !s.keyAllowed then some s
  else
    let k : Candidate := ⟨s.count, here, !s.inBrackets && s.indent = here.column⟩
    s.dropCandidate.map fun s => { s with candidates := some k :: s.candidates.drop 1 }

/-- The number of tokens that can be no key any more. -/
def settled (s : Scanner) : Nat :=
  s.candidates.foldl (fun n k => k.elim n fun k => min n k.number) s.count

/-! ## Cutting -/

/-- Passes blanks, comments and line ends.  A new line outside brackets may begin a key. -/
def toToken (s : Scanner) : (inComment : Bool) → List Cell → Scanner × List Cell
  | _, [] => (s, [])
  | inComment, x :: rest =>
    if isBreak x.char then
      let s := if s.inBrackets then s else { s with keyAllowed := true }
      toToken s false rest
    else if inComment then toToken s true rest
    else if x.place.column = 0 && x.char = '\uFEFF' then toToken s false rest
    else if x.char = ' ' || (x.char = '\t' && (s.inBrackets || !s.keyAllowed)) then
      toToken s false rest
    else if x.char = '#' then toToken s true rest
    else (s, x :: rest)

/-- What cutting gives: a state and the rest of the text, or a fault. -/
abbrev Cut := Option (Scanner × List Cell)

/-- A lexeme read where a key may begin, and its token. -/
def lexeme {α : Type} (s : Scanner) (here : Place) (read : Option (α × List Cell))
    (token : α → Token) : Cut :=
  match s.saveCandidate here, read with
  | some s, some (x, rest) => some ({ s with keyAllowed := false }.push (token x), rest)
  | _, _ => none

/-- A mark between documents or a directive. -/
def atMargin (s : Scanner) (t : Token) (rest : List Cell) : Cut :=
  (s.unroll (-1)).dropCandidate.map fun s => ({ s with keyAllowed := false }.push t, rest)

/-- A list or a mapping in brackets begins. -/
def openBracket (s : Scanner) (here : Place) (t : Token) (rest : List Cell) : Cut :=
  (s.saveCandidate here).map fun s =>
    ({ s with candidates := none :: s.candidates, keyAllowed := true }.push t, rest)

/-- A list or a mapping in brackets ends. -/
def closeBracket (s : Scanner) (t : Token) (rest : List Cell) : Cut :=
  s.dropCandidate.map fun s =>
    let candidates := if s.inBrackets then s.candidates.drop 1 else s.candidates
    ({ s with candidates, keyAllowed := false }.push t, rest)

/-- A comma. -/
def comma (s : Scanner) (rest : List Cell) : Cut :=
  s.dropCandidate.map fun s => ({ s with keyAllowed := true }.push .flowEntry, rest)

/-- A dash. -/
def dash (s : Scanner) (here : Place) (rest : List Cell) : Cut :=
  if !s.inBrackets && !s.keyAllowed then none
  else (s.roll here.column s.count .blockListStart).dropCandidate.map fun s =>
    ({ s with keyAllowed := true }.push .blockEntry, rest)

/-- A question mark. -/
def question (s : Scanner) (here : Place) (rest : List Cell) : Cut :=
  if !s.inBrackets && !s.keyAllowed then none
  else (s.roll here.column s.count .blockMapStart).dropCandidate.map fun s =>
    ({ s with keyAllowed := !s.inBrackets }.push .key, rest)

/-- A colon: the candidate in front of it is a key. -/
def colon (s : Scanner) (here : Place) (rest : List Cell) : Cut :=
  match s.candidates with
  | some k :: outer =>
    let s := (s.insert k.number .key).roll k.place.column k.number .blockMapStart
    some ({ s with candidates := none :: outer, keyAllowed := false }.push .value, rest)
  | _ =>
    if !s.inBrackets && !s.keyAllowed then none
    else
      let s := s.roll here.column s.count .blockMapStart
      some ({ s with keyAllowed := !s.inBrackets }.push .value, rest)

/-- A block scalar. -/
def block (s : Scanner) (literal : Bool) (rest : List Cell) : Cut :=
  match s.dropCandidate, readBlock literal s.indent rest with
  | some s, some (text, rest) =>
    let form : ScalarForm := if literal then .literal else .folded
    some ({ s with keyAllowed := true }.push (.scalar text form), rest)
  | _, _ => none

/-- A plain scalar. -/
def plain (s : Scanner) (here : Place) (cells : List Cell) : Cut :=
  match s.saveCandidate here, readPlain s.inBrackets (s.indent + 1).toNat .none [] cells with
  | some s, some p =>
    some ({ s with keyAllowed := p.broken }.push (.scalar p.text .plain), p.rest)
  | _, _ => none

/-- A plain scalar may begin with this character. -/
def beginsPlain (inBrackets : Bool) (c : Char) (rest : List Cell) : Bool :=
  if c = '-' then !(head? rest).any isSpace
  else if c = '?' || c = ':' then !inBrackets && !atGap rest
  else !(isBracketMark c || ['#', '&', '*', '!', '|', '>', '\'', '"', '%', '@', '\x60'].contains c)

/-- The token that the text begins with; the end is not here. -/
def cutToken (s : Scanner) (x : Cell) (rest : List Cell) : Cut :=
  let cells := x :: rest
  let here := x.place
  let c := x.char
  if here.column = 0 && c = '%' then
    match readDirective rest with
    | some (d, rest) => s.atMargin (.directive d) rest
    | none => none
  else if isLineMark '-' cells then s.atMargin .documentStart (cells.drop 3)
  else if isLineMark '.' cells then s.atMargin .documentEnd (cells.drop 3)
  else if c = '[' then s.openBracket here .flowListStart rest
  else if c = '{' then s.openBracket here .flowMapStart rest
  else if c = ']' then s.closeBracket .flowListEnd rest
  else if c = '}' then s.closeBracket .flowMapEnd rest
  else if c = ',' then s.comma rest
  else if c = '-' && atGap rest then s.dash here rest
  else if c = '?' && (s.inBrackets || atGap rest) then s.question here rest
  else if c = ':' && (s.inBrackets || atGap rest) then s.colon here rest
  else if c = '*' then s.lexeme here (readName rest) .alias
  else if c = '&' then s.lexeme here (readName rest) .anchor
  else if c = '!' then s.lexeme here (readTag s.inBrackets cells) .tag
  else if c = '|' && !s.inBrackets then s.block true rest
  else if c = '>' && !s.inBrackets then s.block false rest
  else if c = '\'' then s.lexeme here (readSingle .none [] rest) (.scalar · .quoted)
  else if c = '"' then s.lexeme here (readDouble .plain .none [] rest) (.scalar · .quoted)
  else if beginsPlain s.inBrackets c rest then s.plain here cells
  else none

/-- The place of the text, `last` being the place behind it. -/
def placeOf (last : Place) : List Cell → Place
  | [] => last
  | x :: _ => x.place

/-- The next token; nothing more comes behind the end. -/
def next (s : Scanner) (last : Place) (cells : List Cell) : Cut :=
  let (s, cells) := s.toToken false cells
  match s.dropStale (placeOf last cells) with
  | none => none
  | some s =>
    match cells with
    | [] => (s.unroll (-1)).dropCandidate.map fun s => (s.push .streamEnd, [])
    | x :: rest => (s.unroll x.place.column).cutToken x rest

/-- The tokens in front of a fault. -/
def tokensBeforeFault (s : Scanner) : List Token := (s.tokens.reverse).take s.settled

/-- Cuts tokens until the end or a fault.  The tokens that were cut last are not in front of a fault
that is noticed right behind them.  Every token has a character, so `fuel` may be one more than the
length of the text. -/
def run (last : Place) : Nat → Scanner → List Cell → List Token × Bool
  | 0, s, _ => (s.tokensBeforeFault, false)
  | fuel + 1, s, cells =>
    match s.next last cells with
    | none => (s.tokensBeforeFault, false)
    | some (after, rest) =>
      match after.tokens, after.dropStale (placeOf last rest) with
      | .streamEnd :: _, _ => (after.tokens.reverse, true)
      | _, none => (s.tokensBeforeFault, false)
      | _, some after => run last fuel after rest

end Scanner

/-- The tokens of a YAML text, and whether they are all of it. -/
def tokens (text : String) : List Token × Bool :=
  let cs := match text.toList with
    | '\uFEFF' :: cs => cs
    | cs => cs
  if !cs.all isAllowed then ([], false)
  else
    let (cells, last) := place ⟨0, 0, 0⟩ cs
    Scanner.run last (cells.length + 1) .start cells

end Yaml

end PageScript
