import PageScript.Yaml.Cell
import PageScript.Number.Reading

/-!
# YAML lexemes

The pieces of a YAML text that are longer than a mark: scalars in their four spellings, anchors,
tags and directives.  Every reader here takes the text from the beginning of its piece and gives the
piece with the text behind it, or nothing when the piece is malformed.

Where a scalar goes over several lines, the line ends inside it are folded: a single one becomes a
space, and of several the first is dropped.
-/

namespace PageScript

namespace Yaml

/-! ## Folding -/

/-- The gap that has been passed inside a scalar and not yet been written. -/
structure Gap where
  /-- The gap has a line end in it. -/
  broken : Bool
  /-- The first line end; a line end that was escaped leaves none. -/
  first : List Char
  /-- The other line ends, last first. -/
  others : List Char
  /-- The blanks of a gap inside a line, last first. -/
  blanks : List Char

namespace Gap

/-- No gap. -/
def none : Gap := ⟨false, [], [], []⟩

/-- A gap with an escaped line end. -/
def escaped : Gap := ⟨true, [], [], []⟩

/-- There is a gap. -/
def exists? (g : Gap) : Bool := g.broken || !g.blanks.isEmpty

/-- One more character of the gap. -/
def push (g : Gap) (c : Char) : Gap :=
  if isBreak c then
    if g.broken then { g with others := c :: g.others } else ⟨true, [c], [], []⟩
  else if g.broken then g
  else { g with blanks := c :: g.blanks }

/-- What the gap is written as, last character first. -/
def fold (g : Gap) : List Char :=
  if !g.broken then g.blanks
  else if g.first = ['\n'] then (if g.others.isEmpty then [' '] else g.others)
  else g.others ++ g.first

end Gap

/-! ## Quoted scalars -/

/-- Where the reader of a quoted scalar stands. -/
inductive QuoteMode where
  | plain
  | escape
  /-- Inside a number: digits missing, and the number so far. -/
  | number (missing n : Nat)

/-- The character for a letter behind a backslash. -/
def escaped? : Char → Option Char
  | '0' => some '\x00'
  | 'a' => some '\x07'
  | 'b' => some '\x08'
  | 't' => some '\t'
  | '\t' => some '\t'
  | 'n' => some '\n'
  | 'v' => some '\x0b'
  | 'f' => some '\x0c'
  | 'r' => some '\r'
  | 'e' => some '\x1b'
  | ' ' => some ' '
  | '"' => some '"'
  | '/' => some '/'
  | '\\' => some '\\'
  | 'N' => some '\u0085'
  | '_' => some '\u00a0'
  | 'L' => some '\u2028'
  | 'P' => some '\u2029'
  | _ => none

/-- The number of digits behind a letter for a code point. -/
def numberLength? : Char → Option Nat
  | 'x' => some 2
  | 'u' => some 4
  | 'U' => some 8
  | _ => none

/-- A scalar in double quotes from behind the opening quote; `done` is what was read, last first. -/
def readDouble : QuoteMode → Gap → List Char → List Cell → Option (String × List Cell)
  | _, _, _, [] => none
  | .plain, gap, done, x :: rest =>
    if isSpace x.char || isBreak x.char then readDouble .plain (gap.push x.char) done rest
    else if isDocumentMark (x :: rest) then none
    else
      let done := gap.fold ++ done
      if x.char = '"' then some (String.ofList done.reverse, rest)
      else if x.char = '\\' then readDouble .escape .none done rest
      else readDouble .plain .none (x.char :: done) rest
  | .escape, _, done, x :: rest =>
    if isBreak x.char then readDouble .plain .escaped done rest
    else match numberLength? x.char with
      | some n => readDouble (.number n 0) .none done rest
      | none =>
        match escaped? x.char with
        | some c => readDouble .plain .none (c :: done) rest
        | none => none
  | .number missing n, _, done, x :: rest =>
    match Reading.digitValue x.char with
    | none => none
    | some d =>
      let n := n * 16 + d
      if missing ≠ 1 then readDouble (.number (missing - 1) n) .none done rest
      else if (0xD800 ≤ n && n ≤ 0xDFFF) || 0x10FFFF < n then none
      else readDouble .plain .none (Char.ofNat n :: done) rest

/-- A scalar in single quotes from behind the opening quote; a quote is written twice. -/
def readSingle : Gap → List Char → List Cell → Option (String × List Cell)
  | _, _, [] => none
  | gap, done, x :: rest =>
    if isSpace x.char || isBreak x.char then readSingle (gap.push x.char) done rest
    else if isDocumentMark (x :: rest) then none
    else
      let done := gap.fold ++ done
      if x.char = '\'' then
        match rest with
        | y :: rest =>
          if y.char = '\'' then readSingle .none ('\'' :: done) rest
          else some (String.ofList done.reverse, y :: rest)
        | [] => some (String.ofList done.reverse, [])
      else readSingle .none (x.char :: done) rest

/-! ## Plain scalars -/

/-- A plain scalar that was read. -/
structure PlainScalar where
  text : String
  /-- The text goes on in a new line. -/
  broken : Bool
  rest : List Cell

/-- A character that ends a plain scalar inside brackets. -/
def isBracketMark (c : Char) : Bool := c = ',' || c = '[' || c = ']' || c = '{' || c = '}'

/-- A plain scalar.  Inside brackets it ends at a bracket or a comma; elsewhere its lines are
indented to the column `indent`. -/
def readPlain (inBrackets : Bool) (indent : Nat) : Gap → List Char → List Cell →
    Option PlainScalar
  | gap, done, [] => some ⟨String.ofList done.reverse, gap.broken, []⟩
  | gap, done, x :: rest =>
    let stop : Option PlainScalar := some ⟨String.ofList done.reverse, gap.broken, x :: rest⟩
    if isSpace x.char || isBreak x.char then
      if gap.broken && x.char = '\t' && x.place.column < indent then none
      else readPlain inBrackets indent (gap.push x.char) done rest
    else if gap.exists? && ((!inBrackets && x.place.column < indent)
        || isDocumentMark (x :: rest) || x.char = '#') then stop
    else if x.char = ':' && inBrackets
        && (head? rest).any (fun c => isBracketMark c || c = '?') then none
    else if (x.char = ':' && atGap rest) || (inBrackets && isBracketMark x.char) then stop
    else readPlain inBrackets indent .none (x.char :: (gap.fold ++ done)) rest

/-! ## Block scalars -/

/-- What becomes of the line ends at the end of a block scalar. -/
inductive Chomp where
  | strip
  | clip
  | keep

/-- The header of a block scalar: what becomes of its end, and how far it is indented. -/
structure BlockHeader where
  chomp : Chomp
  /-- The indentation beyond that of the surroundings; zero when it is taken from the text. -/
  indent : Nat

/-- A sign of a header. -/
def chomp? : Char → Option Chomp
  | '+' => some .keep
  | '-' => some .strip
  | _ => none

/-- The signs of a header, in any order, and the text behind them. -/
def readHeader (cells : List Cell) : Option (BlockHeader × List Cell) :=
  let digit (cells : List Cell) : Option (Nat × List Cell) :=
    match cells with
    | x :: rest =>
      if Reading.isDigit x.char then
        if x.char = '0' then none else some (x.char.toNat - '0'.toNat, rest)
      else some (0, cells)
    | [] => some (0, cells)
  let sign (cells : List Cell) : Chomp × Bool × List Cell :=
    match cells with
    | x :: rest =>
      match chomp? x.char with
      | some c => (c, true, rest)
      | none => (.clip, false, cells)
    | [] => (.clip, false, cells)
  let (c, signed, rest) := sign cells
  match digit rest with
  | none => none
  | some (n, rest) =>
    if signed || n = 0 then some (⟨c, n⟩, rest)
    else
      let (c, _, rest) := sign rest
      some (⟨c, n⟩, rest)

/-- The indentation and the empty lines in front of a line of a block scalar. -/
structure BlockGap where
  /-- The greatest column that was reached. -/
  column : Nat
  breaks : List Char
  rest : List Cell

/-- Passes indentation up to a column and empty lines; a column of zero is not yet known. -/
def readBlockGap (indent : Nat) : Nat → List Char → List Cell → Option BlockGap
  | reached, breaks, [] => some ⟨reached, breaks, []⟩
  | reached, breaks, x :: rest =>
    let inside := indent = 0 || x.place.column < indent
    if x.char = ' ' && inside then readBlockGap indent reached breaks rest
    else if x.char = '\t' && inside then none
    else
      let reached := max reached x.place.column
      if isBreak x.char then readBlockGap indent reached (x.char :: breaks) rest
      else some ⟨reached, breaks, x :: rest⟩

/-- The lines of a block scalar that is indented to a column.  `ending` is the line end of the line
before, `breaks` the further ones, last first, and `wasBlank` tells whether that line began with a
blank.  Every line has a character, so `fuel` may be the length of the text. -/
def readBlockLines (literal : Bool) (chomp : Chomp) (indent : Nat) :
    Nat → (wasBlank : Bool) → (ending breaks done : List Char) → List Cell →
    Option (String × List Cell)
  | fuel, wasBlank, ending, breaks, done, cells =>
    let finish : Option (String × List Cell) :=
      let tail := match chomp with
        | .strip => []
        | .clip => ending
        | .keep => breaks ++ ending
      some (String.ofList (tail ++ done).reverse, cells)
    match fuel, cells with
    | fuel + 1, x :: rest =>
      if x.place.column ≠ indent then finish
      else
        let isBlank := isSpace x.char
        let joint :=
          if !literal && ending = ['\n'] && !wasBlank && !isBlank then
            if breaks.isEmpty then [' '] else breaks
          else breaks ++ ending
        let line := readWhile (fun c => !isBreak c) (x :: rest)
        let rest := skipLine (x :: rest)
        let ending := (rest.take 1).map (·.char)
        match readBlockGap indent 0 [] (rest.drop 1) with
        | none => none
        | some gap =>
          readBlockLines literal chomp indent fuel isBlank ending gap.breaks
            (line.reverse ++ joint ++ done) gap.rest
    | _, _ => finish

/-- Comments and blanks up to the end of the line, and the line end. -/
def finishLine (cells : List Cell) : Option (List Cell) :=
  let cells := skipWhile isSpace cells
  let cells := if head? cells = some '#' then skipLine cells else cells
  if atLineEnd cells then some (cells.drop 1) else none

/-- A block scalar from behind its mark.  `outer` is the indentation of the surroundings. -/
def readBlock (literal : Bool) (outer : Int) (cells : List Cell) : Option (String × List Cell) :=
  match readHeader cells with
  | none => none
  | some (header, cells) =>
    match finishLine cells with
    | none => none
    | some cells =>
      let given := if header.indent = 0 then 0 else (max outer 0).toNat + header.indent
      match readBlockGap given 0 [] cells with
      | none => none
      | some gap =>
        let indent := if given = 0 then max (max gap.column (outer + 1).toNat) 1 else given
        readBlockLines literal header.chomp indent (gap.rest.length + 1) false [] gap.breaks []
          gap.rest

/-! ## Anchors and tags -/

/-- The name of an anchor or an alias. -/
def readName (cells : List Cell) : Option (String × List Cell) :=
  let name := readWhile isNameChar cells
  let rest := skipWhile isNameChar cells
  let ends := atGap rest || (head? rest).any fun c =>
    ['?', ':', ',', ']', '}', '%', '@', '\x60'].contains c
  if name.isEmpty || !ends then none else some (String.ofList name, rest)

/-- A character of the address in a tag. -/
def isAddressChar (verbatim : Bool) (c : Char) : Bool :=
  isNameChar c || [';', '/', '?', ':', '@', '&', '=', '+', '$', '.', '!', '~', '*', '\'', '(', ')',
    '%'].contains c || (verbatim && [',', '[', ']'].contains c)

/-- The number that two hexadecimal digits behind a percent sign spell. -/
def escapedByte? : List Cell → Option Nat
  | p :: x :: y :: _ =>
    if p.char = '%' then
      match Reading.digitValue x.char, Reading.digitValue y.char with
      | some a, some b => some (a * 16 + b)
      | _, _ => none
    else none
  | _ => none

/-- A character that is spelled by its bytes, each behind a percent sign, and the number of bytes. -/
def escapedChar? (cells : List Cell) : Option (Char × Nat) :=
  let next (k : Nat) : Option Nat :=
    match escapedByte? (cells.drop (3 * k)) with
    | some b => if b / 64 = 2 then some (b % 64) else none
    | none => none
  match escapedByte? cells with
  | none => none
  | some b =>
    if b < 0x80 then some (Char.ofNat b, 1)
    else if b / 32 = 6 then (next 1).map fun c => (Char.ofNat (b % 32 * 64 + c), 2)
    else if b / 16 = 14 then
      match next 1, next 2 with
      | some c, some d => some (Char.ofNat ((b % 16 * 64 + c) * 64 + d), 3)
      | _, _ => none
    else if b / 8 = 30 then
      match next 1, next 2, next 3 with
      | some c, some d, some e =>
        some (Char.ofNat (((b % 8 * 64 + c) * 64 + d) * 64 + e), 4)
      | _, _, _ => none
    else none

/-- The address in a tag; `skip` characters of an escape are still to be passed. -/
def readAddress (verbatim : Bool) : Nat → List Char → List Cell → Option (List Char × List Cell)
  | _, done, [] => some (done.reverse, [])
  | skip + 1, done, _ :: rest => readAddress verbatim skip done rest
  | 0, done, x :: rest =>
    if !isAddressChar verbatim x.char then some (done.reverse, x :: rest)
    else if x.char = '%' then
      match escapedChar? (x :: rest) with
      | none => none
      | some (c, bytes) => readAddress verbatim (3 * bytes - 1) (c :: done) rest
    else readAddress verbatim 0 (x.char :: done) rest

/-- The handle of a tag: an exclamation mark, perhaps with a name and a second mark. -/
def readHandle (cells : List Cell) : Option (List Char × List Cell) :=
  match cells with
  | x :: rest =>
    if x.char ≠ '!' then none
    else
      let name := readWhile isNameChar rest
      match skipWhile isNameChar rest with
      | y :: rest' =>
        if y.char = '!' then some ('!' :: name ++ ['!'], rest') else some ('!' :: name, y :: rest')
      | [] => some ('!' :: name, [])
  | [] => none

/-- A tag as written: a handle and the rest of the tag. -/
structure TagText where
  /-- The handle; none where the tag stands for itself. -/
  handle : String
  suffix : String
deriving DecidableEq

/-- A tag from its exclamation mark. -/
def readTag (inBrackets : Bool) (cells : List Cell) : Option (TagText × List Cell) :=
  let ended (t : TagText) (rest : List Cell) : Option (TagText × List Cell) :=
    if atGap rest || (inBrackets && head? rest = some ',') then some (t, rest) else none
  match cells with
  | _ :: y :: rest =>
    if y.char = '<' then
      match readAddress true 0 [] rest with
      | some (suffix, z :: rest) =>
        if z.char = '>' && !suffix.isEmpty then ended ⟨"", String.ofList suffix⟩ rest else none
      | _ => none
    else go ended cells
  | _ => go ended cells
where
  go (ended : TagText → List Cell → Option (TagText × List Cell)) (cells : List Cell) :
      Option (TagText × List Cell) :=
    match readHandle cells with
    | none => none
    | some (handle, rest) =>
      match readAddress false 0 [] rest with
      | none => none
      | some (suffix, rest) =>
        if 1 < handle.length && handle.getLast? = some '!' then
          if suffix.isEmpty then none
          else ended ⟨String.ofList handle, String.ofList suffix⟩ rest
        else
          let suffix := handle.drop 1 ++ suffix
          if suffix.isEmpty then ended ⟨"", "!"⟩ rest
          else ended ⟨"!", String.ofList suffix⟩ rest

/-! ## Directives -/

/-- A line that says something about the document. -/
inductive Directive where
  | version (major minor : Nat)
  | tag (handle address : String)

/-- The digits of a version number, at most nine. -/
def readVersionNumber (cells : List Cell) : Option (Nat × List Cell) :=
  let digits := readWhile Reading.isDigit cells
  if digits.isEmpty || 9 < digits.length then none
  else some (Reading.digitsValue digits, skipWhile Reading.isDigit cells)

/-- A directive from behind its percent sign. -/
def readDirective (cells : List Cell) : Option (Directive × List Cell) :=
  let name := readWhile isNameChar cells
  let rest := skipWhile isNameChar cells
  if !atGap rest then none
  else
    let body := skipWhile isSpace rest
    let closed (d : Directive) (rest : List Cell) : Option (Directive × List Cell) :=
      (finishLine rest).map (d, ·)
    if name = "YAML".toList then
      match readVersionNumber body with
      | some (major, dot :: rest) =>
        if dot.char ≠ '.' then none
        else match readVersionNumber rest with
          | some (minor, rest) => closed (.version major minor) rest
          | none => none
      | _ => none
    else if name = "TAG".toList then
      match readHandle body with
      | none => none
      | some (handle, rest) =>
        if (handle.getLast? ≠ some '!') || !(head? rest).any isSpace then none
        else match readAddress true 0 [] (skipWhile isSpace rest) with
          | some (address, rest) =>
            if address.isEmpty || !atGap rest then none
            else closed (.tag (String.ofList handle) (String.ofList address)) rest
          | none => none
    else none

end Yaml

end PageScript
