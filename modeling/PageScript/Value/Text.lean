import PageScript.Value.Basic
import PageScript.Number.Layout

/-!
# Texts of values

The compact text of a value, which is its JSON text without spaces: fields in their order, quotes,
backslashes and control characters escaped, everything else as it is.  The same quoted form of a
text is what page scripts receive as a string literal.
-/

namespace PageScript

namespace Quoted

/-- Two lower-case hexadecimal digits of a number below 256. -/
def hexByte (n : Nat) : List Char := [Nat.digitChar (n / 16), Nat.digitChar (n % 16)]

/-- One character inside the quotes. -/
def encodeChar (c : Char) : List Char :=
  if c = '"' then ['\\', '"']
  else if c = '\\' then ['\\', '\\']
  else if c.toNat < 0x20 then
    if c = '\x08' then ['\\', 'b']
    else if c = '\t' then ['\\', 't']
    else if c = '\n' then ['\\', 'n']
    else if c = '\x0c' then ['\\', 'f']
    else if c = '\r' then ['\\', 'r']
    else '\\' :: 'u' :: '0' :: '0' :: hexByte c.toNat
  else [c]

/-- The characters between the quotes. -/
def encode (cs : List Char) : List Char := cs.flatMap encodeChar

/-- A text as a string literal. -/
def literal (s : String) : String := String.ofList ('"' :: encode s.toList ++ ['"'])

end Quoted

namespace Number

/-- The text of a number inside a value. -/
def text : Number → String
  | .integer n => intText n
  | .real x => if x.isFinite then Layout.value.text x else "null"

end Number

namespace Value

mutual

/-- The compact text of a value. -/
def toText : Value → String
  | .null => "null"
  | .bool b => if b then "true" else "false"
  | .number n => n.text
  | .text s => Quoted.literal s
  | .list items => "[" ++ itemsText items ++ "]"
  | .object fields => "\x7b" ++ fieldsText fields ++ "\x7d"

/-- The texts of list items, separated by commas. -/
def itemsText : List Value → String
  | [] => ""
  | [v] => toText v
  | v :: rest => toText v ++ "," ++ itemsText rest

/-- The texts of fields, separated by commas. -/
def fieldsText : List (String × Value) → String
  | [] => ""
  | [(k, v)] => Quoted.literal k ++ ":" ++ toText v
  | (k, v) :: rest => Quoted.literal k ++ ":" ++ toText v ++ "," ++ fieldsText rest

end

/-- The text of a scalar as operations compare it: a text as it is, numbers and booleans in their
literal form, null as nothing.  Lists and objects are no scalars. -/
def scalarText : Value → Option String
  | .text s => some s
  | .number n => some n.text
  | .bool b => some (if b then "true" else "false")
  | .null => some ""
  | .list _ => none
  | .object _ => none

/-- The text of any value: nothing for null, a text as it is, else the compact text. -/
def plainText : Value → String
  | .null => ""
  | .text s => s
  | v => v.toText

end Value

end PageScript
