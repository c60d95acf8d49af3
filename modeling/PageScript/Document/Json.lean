import PageScript.Document.Event
import PageScript.Number.Reading
import PageScript.Value.Text
import PageScript.Text.Pieces

/-!
# JSON documents

A JSON text is cut into tokens, and the tokens are checked against the grammar while the events are
produced.  String literals follow the JSON rules: control characters are refused, and a pair of
escapes above the basic plane must be complete.  An integer outside the signed and unsigned 64-bit
ranges is a binary64 number, and so is `-0`.  A binary64 number keeps as many digits as fit into 64
bits and is scaled by one power of ten.

Containers may be nested `depthLimit` deep.
-/

namespace PageScript

namespace Quoted

/-! ## String literals -/

/-- Where the reader of a string literal stands. -/
inductive Mode where
  | plain
  | escape
  /-- Inside four hexadecimal digits: how many are missing, and the number so far.  `high` is the
  first half of a pair. -/
  | hex (missing : Nat) (n : Nat) (high : Option Nat)
  /-- Behind the first half of a pair. -/
  | pair (high : Nat)
  /-- Behind the first half of a pair and a backslash. -/
  | pairEscape (high : Nat)

/-- The character of a one-letter escape. -/
def escaped? (c : Char) : Option Char :=
  if c = '"' then some '"'
  else if c = '\\' then some '\\'
  else if c = '/' then some '/'
  else if c = 'b' then some '\x08'
  else if c = 'f' then some '\x0c'
  else if c = 'n' then some '\n'
  else if c = 'r' then some '\r'
  else if c = 't' then some '\t'
  else none

/-- The rest of a string literal behind its opening quote: its characters, and what follows the
closing quote.  `done` holds the characters read so far, last first. -/
def read (mode : Mode) (done : List Char) : List Char → Option (List Char × List Char)
  | [] => none
  | c :: cs =>
    match mode with
    | .plain =>
      if c = '"' then some (done.reverse, cs)
      else if c = '\\' then read .escape done cs
      else if c.toNat < 0x20 then none
      else read .plain (c :: done) cs
    | .escape =>
      if c = 'u' then read (.hex 4 0 none) done cs
      else match escaped? c with
        | some e => read .plain (e :: done) cs
        | none => none
    | .hex missing n high =>
      match Reading.digitValue c with
      | none => none
      | some d =>
        let n := n * 16 + d
        if missing ≠ 1 then read (.hex (missing - 1) n high) done cs
        else match high with
          | some h =>
            if 0xDC00 ≤ n ∧ n ≤ 0xDFFF then
              read .plain (Char.ofNat (0x10000 + (h - 0xD800) * 0x400 + (n - 0xDC00)) :: done) cs
            else none
          | none =>
            if 0xD800 ≤ n ∧ n ≤ 0xDBFF then read (.pair n) done cs
            else if 0xDC00 ≤ n ∧ n ≤ 0xDFFF then none
            else read .plain (Char.ofNat n :: done) cs
    | .pair h => if c = '\\' then read (.pairEscape h) done cs else none
    | .pairEscape h => if c = 'u' then read (.hex 4 0 (some h)) done cs else none

end Quoted

namespace Json

/-- Containers nested deeper are refused. -/
def depthLimit : Nat := 127

/-! ## Numbers -/

/-- Digits and a scale: as many digits as stay below `2 ^ 64`, and the power of ten to apply. -/
structure Significand where
  digits : Nat
  scale : Int
  full : Bool

/-- One more digit; behind the point a digit that is kept lowers the scale, before it a digit that
is dropped raises it. -/
def Significand.push (s : Significand) (afterPoint : Bool) (c : Char) : Significand :=
  let n := s.digits * 10 + (c.toNat - '0'.toNat)
  if s.full || n ≥ Nat.pow 2 64 then
    { s with full := true, scale := if afterPoint then s.scale else s.scale + 1 }
  else { s with digits := n, scale := if afterPoint then s.scale - 1 else s.scale }

/-- A natural number scaled by a power of ten in binary64 arithmetic; `none` when it overflows. -/
def scaled? (digits : Nat) (scale : Int) : Option Double :=
  let x := Double.ofInt digits
  if digits = 0 then some x
  else if scale ≥ 0 then
    if scale > 308 then none
    else
      let y := x.mul (Double.ofDecimal false 1 scale)
      if y.isFinite then some y else none
  else if scale ≥ -308 then some (x.div (Double.ofDecimal false 1 (-scale)))
  else
    let x := x.div (Double.ofDecimal false 1 308)
    if scale + 308 ≥ -308 then some (x.div (Double.ofDecimal false 1 (-(scale + 308))))
    else some (Double.zero false)

/-- A number token: the number and the rest.  The text begins with a digit or a minus sign. -/
def number? (cs : List Char) : Option (Number × List Char) :=
  let (negative, body) := match cs with
    | '-' :: rest => (true, rest)
    | _ => (false, cs)
  let (whole, rest) := Reading.spanDigits body
  let wholeOk := match whole with
    | [] => false
    | '0' :: _ :: _ => false
    | _ => true
  if !wholeOk then none
  else
    let (fraction, rest, pointOk) := match rest with
      | '.' :: r =>
        let (f, r) := Reading.spanDigits r
        (f, r, !f.isEmpty)
      | _ => ([], rest, true)
    let (exponent, rest, exponentOk) : Option (Bool × List Char) × List Char × Bool :=
      match rest with
      | c :: r =>
        if c == 'e' || c == 'E' then
          let (down, r) := match r with
            | '+' :: r => (false, r)
            | '-' :: r => (true, r)
            | _ => (false, r)
          let (digits, r) := Reading.spanDigits r
          (some (down, digits), r, !digits.isEmpty)
        else (none, rest, true)
      | [] => (none, rest, true)
    if !pointOk || !exponentOk then none
    else if fraction.isEmpty && exponent.isNone then
      let n := Reading.digitsValue whole
      if negative then
        if n = 0 then some (.real (.zero true), rest)
        else if (n : Int) ≤ -Reading.int64Min then some (.integer (-(n : Int)), rest)
        else (finish negative whole fraction none).map (·, rest)
      else if (n : Int) ≤ Reading.nat64Max then some (.integer n, rest)
      else (finish negative whole fraction none).map (·, rest)
    else (finish negative whole fraction exponent).map (·, rest)
where
  /-- The binary64 number with these digits. -/
  finish (negative : Bool) (whole fraction : List Char) (exponent : Option (Bool × List Char)) :
      Option Number :=
    let s := whole.foldl (fun (s : Significand) c => s.push false c) ⟨0, 0, false⟩
    let s := fraction.foldl (fun (s : Significand) c => s.push true c) { s with full := false }
    let e : Int := match exponent with
      | none => 0
      | some (down, digits) =>
        let significant := digits.dropWhile (· == '0')
        let n : Nat :=
          if significant.length > 9 then 1000000000 else Reading.digitsValue significant
        if down then -(n : Int) else n
    (scaled? s.digits (s.scale + e)).map fun x => .real (if negative then x.neg else x)

/-! ## Tokens -/

/-- A token of a JSON text. -/
inductive Token where
  /-- One of the six marks between values. -/
  | mark (c : Char)
  | text (s : String)
  /-- A number, a boolean or null. -/
  | plain (v : Value)

/-- The four blanks of JSON. -/
def isBlank (c : Char) : Bool := c == ' ' || c == '\t' || c == '\n' || c == '\r'

/-- The token in front of a text that begins with `c`, and the rest. -/
def token? (c : Char) (cs : List Char) : Option (Token × List Char) :=
  if ['[', ']', '{', '}', ',', ':'].contains c then some (.mark c, cs)
  else if c = '"' then (Quoted.read .plain [] cs).map fun (s, rest) => (.text (String.ofList s), rest)
  else if c = '-' || Reading.isDigit c then
    (number? (c :: cs)).map fun (n, rest) => (.plain (.number n), rest)
  else if c = 't' then (Text.stripFront "rue".toList cs).map (.plain (.bool true), ·)
  else if c = 'f' then (Text.stripFront "alse".toList cs).map (.plain (.bool false), ·)
  else if c = 'n' then (Text.stripFront "ull".toList cs).map (.plain .null, ·)
  else none

/-- The tokens of a text, and whether they are all of it.  Every token takes at least one character,
so a text has no more tokens than `fuel` if that is its length. -/
def tokens : Nat → List Char → List Token × Bool
  | 0, cs => ([], cs.isEmpty)
  | _ + 1, [] => ([], true)
  | fuel + 1, c :: cs =>
    if isBlank c then tokens fuel cs
    else match token? c cs with
      | none => ([], false)
      | some (t, rest) =>
        let (ts, sound) := tokens fuel rest
        (t :: ts, sound)

/-! ## Grammar -/

/-- What the grammar expects next. -/
inductive Expect where
  /-- A value; in a list that has just begun, also its end. -/
  | value (mayEnd : Bool)
  /-- The name of a field; in an object that has just begun, also its end. -/
  | name (mayEnd : Bool)
  | colon
  /-- A comma or the end of the innermost container. -/
  | next
  | nothing

/-- Behind a value: the innermost container goes on, or the text is over. -/
def behind (opened : List Bool) : Expect := if opened.isEmpty then .nothing else .next

/-- The events of a row of tokens.  `opened` tells for every open container, innermost first,
whether it is an object. -/
def events (sound : Bool) : Expect → List Bool → List Token → List Event × Bool
  | .nothing, _, [] => ([], sound)
  | _, _, [] => ([], false)
  | expect, opened, t :: ts =>
    let fault : List Event × Bool := ([], false)
    let emit (e : Event) (rest : List Event × Bool) : List Event × Bool := (e :: rest.1, rest.2)
    match expect, t with
    | .value _, .text s =>
      emit (.scalar s (some (.text s))) (events sound (behind opened) opened ts)
    | .value _, .plain v =>
      emit (.scalar v.toText (some v)) (events sound (behind opened) opened ts)
    | .value mayEnd, .mark c =>
      if c = '[' then
        if depthLimit ≤ opened.length then fault
        else emit (.listStart false) (events sound (.value true) (false :: opened) ts)
      else if c = '{' then
        if depthLimit ≤ opened.length then fault
        else emit (.mapStart false) (events sound (.name true) (true :: opened) ts)
      else if c = ']' && mayEnd then
        emit .listEnd (events sound (behind opened.tail) opened.tail ts)
      else fault
    | .name _, .text s => emit (.scalar s (some (.text s))) (events sound .colon opened ts)
    | .name mayEnd, .mark c =>
      if c = '}' && mayEnd then emit .mapEnd (events sound (behind opened.tail) opened.tail ts)
      else fault
    | .colon, .mark c => if c = ':' then events sound (.value false) opened ts else fault
    | .next, .mark c =>
      match opened with
      | true :: outer =>
        if c = ',' then events sound (.name false) opened ts
        else if c = '}' then emit .mapEnd (events sound (behind outer) outer ts)
        else fault
      | false :: outer =>
        if c = ',' then events sound (.value false) opened ts
        else if c = ']' then emit .listEnd (events sound (behind outer) outer ts)
        else fault
      | [] => fault
    | _, _ => fault

/-- A JSON text as a document. -/
def document (s : String) : Document :=
  let cs := s.toList
  let (ts, sound) := tokens cs.length cs
  let (es, sound) := events sound (.value false) [] ts
  ⟨es, sound⟩

/-- The value of a JSON text. -/
def value? (s : String) : Option Value :=
  let d := document s
  match Document.readValue (depthLimit + 1) [] d.events with
  | some (v, []) => if d.sound then some v else none
  | _ => none

end Json

end PageScript
