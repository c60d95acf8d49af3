import PageScript.Value.Text
import PageScript.Number.Reading
import PageScript.Text.Pieces
import PageScript.Text.Letter
import PageScript.Error

/-!
# Words of literals

The parts of a literal that hold no other literal: string literals, numbers and names.  Each reader
takes the text from its first character on and gives what it read together with the rest.

A fault keeps the number of characters that were still unread where it was noticed.  Together with
the length of the whole text this is the offset that the message shows.
-/

namespace PageScript

namespace Literal

/-- What can be wrong with a literal at a place. -/
inductive Problem where
  | empty
  /-- The text ends where a value should begin. -/
  | unexpectedEnd
  /-- No value begins with this character. -/
  | unexpectedChar (c : Char)
  /-- A list, tuple, set or dict neither goes on nor ends. -/
  | expectedCommaOr (close : Char)
  /-- A later key of a dict has no colon. -/
  | expectedColon
  /-- A sign stands before something else than a number. -/
  | signWithoutNumber
  /-- The text ends inside a string. -/
  | unterminatedString
  /-- The text ends behind a backslash. -/
  | unterminatedEscape
  /-- A hexadecimal escape holds something else than a digit. -/
  | invalidHexEscape
  | invalidUnicodeEscape
  /-- A hexadecimal number has no digits or leaves the 64-bit range. -/
  | invalidHex
  | lonePoint
  /-- Digits, points and exponents that make no number. -/
  | invalidNumber (text : String)
  /-- A number beyond the range of binary64. -/
  | notFinite
  /-- A name that is no literal. -/
  | notALiteral (name : String)
  | trailingInput
deriving DecidableEq, Repr

/-- Why a text is no literal. -/
inductive Fault where
  /-- A problem, and how many characters were unread there. -/
  | problem (what : Problem) (left : Nat)
  /-- A list or an object as the key of a dict. -/
  | unhashableKey (key : Value)

/-- The words of a problem. -/
def Problem.message : Problem → String
  | .empty => "empty expression"
  | .unexpectedEnd => "unexpected end of expression"
  | .unexpectedChar c => "unexpected character '" ++ String.ofList [c] ++ "'"
  | .expectedCommaOr close => "expected ',' or '" ++ String.ofList [close] ++ "'"
  | .expectedColon => "expected ':' in dict"
  | .signWithoutNumber => "sign must precede a number"
  | .unterminatedString => "unterminated string"
  | .unterminatedEscape => "unterminated escape"
  | .invalidHexEscape => "invalid hex escape"
  | .invalidUnicodeEscape => "invalid unicode escape"
  | .invalidHex => "invalid hex literal"
  | .lonePoint => "invalid number"
  | .invalidNumber t => "invalid number '" ++ t ++ "'"
  | .notFinite => "number is not finite"
  | .notALiteral name => "'" ++ name ++ "' is not a literal"
  | .trailingInput => "unexpected trailing input"

/-- The error of a fault in a source text. -/
def Fault.error (source : String) : Fault → Error
  | .problem what left =>
    .expression (what.message ++ " at offset " ++ Nat.repr (source.toList.length - left) ++ " in '"
      ++ source ++ "'")
  | .unhashableKey key => .expression ("unhashable dict key: " ++ key.toText)

/-- What a reader gives: a result and the rest of the text. -/
abbrev Read (α : Type) := Except Fault (α × List Char)

/-! ## Strings -/

/-- Where the reader of a string stands. -/
inductive Mode where
  | plain
  | escape
  /-- Inside a numeric escape: digits still missing, and the number so far. -/
  | hex (missing : Nat) (code : Nat)
deriving DecidableEq, Repr

/-- The character of a one-letter escape. -/
def escaped? (c : Char) : Option Char :=
  match c with
  | 'n' => some '\n'
  | 't' => some '\t'
  | 'r' => some '\r'
  | '0' => some (Char.ofNat 0)
  | '\\' => some '\\'
  | '\'' => some '\''
  | '"' => some '"'
  | _ => none

/-- The number of digits of a numeric escape. -/
def hexWidth? (c : Char) : Option Nat :=
  match c with
  | 'x' => some 2
  | 'u' => some 4
  | 'U' => some 8
  | _ => none

/-- The number is a code point of a character. -/
def isScalar (code : Nat) : Bool := code < 0xD800 || (0xDFFF < code && code < 0x110000)

/-- A string behind its opening quote.  `done` holds its characters so far, last first.  In a raw
string a backslash stays, together with the character behind it.  Elsewhere an unknown escape stays
as it is, and an escaped line end is dropped. -/
def string (raw : Bool) (quote : Char) : Mode → List Char → List Char → Read (List Char)
  | .plain, _, [] => .error (.problem .unterminatedString 0)
  | .escape, _, [] => .error (.problem .unterminatedEscape 0)
  | .hex _ _, _, [] => .error (.problem .invalidHexEscape 0)
  | .plain, done, c :: cs =>
    if c = quote then .ok (done.reverse, cs)
    else if c = '\\' then string raw quote .escape done cs
    else string raw quote .plain (c :: done) cs
  | .escape, done, c :: cs =>
    if raw then string raw quote .plain (c :: '\\' :: done) cs
    else match escaped? c, hexWidth? c with
      | some e, _ => string raw quote .plain (e :: done) cs
      | none, some width => string raw quote (.hex width 0) done cs
      | none, none =>
        if c = '\n' then string raw quote .plain done cs
        else string raw quote .plain (c :: '\\' :: done) cs
  | .hex missing code, done, c :: cs =>
    match Reading.digitValue c with
    | none => .error (.problem .invalidHexEscape cs.length)
    | some d =>
      let code := code * 16 + d
      if missing ≠ 1 then string raw quote (.hex (missing - 1) code) done cs
      else if isScalar code then string raw quote .plain (Char.ofNat code :: done) cs
      else .error (.problem .invalidUnicodeEscape cs.length)

/-- A quote that opens a string. -/
def isQuote (c : Char) : Bool := c == '\'' || c == '"'

/-- Adjacent strings, the first one behind its opening quote; only blanks may stand between them.
Blanks behind the last string are left unread.  There are no more strings than `fuel` if that is the
length of the text. -/
def strings : Nat → Char → List Char → Read (List Char)
  | 0, quote, cs => string false quote .plain [] cs
  | fuel + 1, quote, cs =>
    match string false quote .plain [] cs with
    | .error f => .error f
    | .ok (s, rest) =>
      match Text.trimLeft rest with
      | q :: more =>
        if isQuote q then
          match strings fuel q more with
          | .error f => .error f
          | .ok (t, rest) => .ok (s ++ t, rest)
        else .ok (s, rest)
      | [] => .ok (s, rest)

/-! ## Numbers -/

/-- The characters of a decimal number in front of a text, and the rest, and whether they hold a
point or an exponent: digits, underscores, one point unless an exponent came before, and exponent
letters with an optional sign.  `real` says that a point or an exponent has been read, `signed` that
a sign may come next. -/
def spanNumber : Bool → Bool → List Char → List Char × List Char × Bool
  | real, _, [] => ([], [], real)
  | real, signed, c :: cs =>
    let keep (more : List Char × List Char × Bool) : List Char × List Char × Bool :=
      (c :: more.1, more.2)
    if Reading.isDigit c || c == '_' then keep (spanNumber real false cs)
    else if c == '.' && !real then keep (spanNumber true false cs)
    else if c == 'e' || c == 'E' then keep (spanNumber true true cs)
    else if signed && (c == '+' || c == '-') then keep (spanNumber real false cs)
    else ([], c :: cs, real)

/-- A hexadecimal digit or an underscore. -/
def isHexPart (c : Char) : Bool := (Reading.digitValue c).isSome || c == '_'

/-- A hexadecimal number behind its mark. -/
def hexNumber (negative : Bool) (cs : List Char) : Read Value :=
  let rest := cs.dropWhile isHexPart
  match Reading.natInBase? 16 ((cs.takeWhile isHexPart).filter (· != '_')) with
  | some n =>
    if (n : Int) ≤ Reading.int64Max then .ok (.int (if negative then -(n : Int) else n), rest)
    else .error (.problem .invalidHex rest.length)
  | none => .error (.problem .invalidHex rest.length)

/-- A decimal number: an integer if it fits into 64 bits, else a binary64 number. -/
def decimalNumber (negative : Bool) (cs : List Char) : Read Value :=
  let (front, rest, real) := spanNumber false false cs
  let text := front.filter (· != '_')
  if text = ['.'] then .error (.problem .lonePoint rest.length)
  else match (if real then none else Reading.int64? text) with
    | some n => .ok (.int (if negative then -n else n), rest)
    | none =>
      match Reading.double? text with
      | none => .error (.problem (.invalidNumber (String.ofList text)) rest.length)
      | some x =>
        if x.isFinite then .ok (.number (.real (if negative then x.neg else x)), rest)
        else .error (.problem .notFinite rest.length)

/-- A number without its sign. -/
def number (negative : Bool) (cs : List Char) : Read Value :=
  match cs with
  | '0' :: 'x' :: rest => hexNumber negative rest
  | '0' :: 'X' :: rest => hexNumber negative rest
  | _ => decimalNumber negative cs

/-- A character that a number begins with. -/
def startsNumber (c : Char) : Bool := Reading.isDigit c || c == '.'

/-! ## Names -/

/-- A character of a name. -/
def isNameChar (c : Char) : Bool := Text.isWordChar c || c == '_'

/-- The string prefixes, in lower case. -/
def stringMarks : List (List Char) := [['r'], ['u'], ['b'], ['b', 'r'], ['r', 'b']]

/-- A name: one of the three constants, or the mark of a string that follows at once. -/
def name (cs : List Char) : Read Value :=
  let word := cs.takeWhile isNameChar
  let rest := cs.dropWhile isNameChar
  let constant : Read Value :=
    if word = "True".toList then .ok (.bool true, rest)
    else if word = "False".toList then .ok (.bool false, rest)
    else if word = "None".toList then .ok (.null, rest)
    else .error (.problem (.notALiteral (String.ofList word)) cs.length)
  match rest with
  | q :: body =>
    let mark := word.map Char.toLower
    if isQuote q && stringMarks.contains mark then
      match string (mark.contains 'r') q .plain [] body with
      | .error f => .error f
      | .ok (s, rest) => .ok (.text (String.ofList s), rest)
    else constant
  | [] => constant

end Literal

end PageScript
