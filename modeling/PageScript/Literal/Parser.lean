import PageScript.Literal.Lexeme

/-!
# Literals

The values that an expression may spell out: numbers with a sign, quoted strings, the constants
`True`, `False` and `None`, lists, tuples, sets and dicts.  Tuples and sets become lists, the keys
of dicts become texts.  There are no names to look up and no operators.

The readers call each other with `fuel`, which bounds how deep the calls go.  At most three calls
lie between two characters that are read, so three times the length of the text is always enough,
and `read` starts with that.
-/

namespace PageScript

namespace Literal

/-- The text of a dict key; lists and objects cannot be keys. -/
def keyText? : Value → Option String
  | .text s => some s
  | .number n => some n.text
  | .bool true => some "True"
  | .bool false => some "False"
  | .null => some "None"
  | .list _ => none
  | .object _ => none

/-- The items of a list with every later duplicate removed. -/
def distinct (items : List Value) : List Value :=
  (items.foldl (fun kept v => if kept.any (·.same v) then kept else v :: kept) []).reverse

/-- The error where a container should go on or end. -/
def expectedCommaOr (close : Char) (cs : List Char) : Fault :=
  .problem (.expectedCommaOr close) cs.length

mutual

/-- A value, with blanks in front of it. -/
def value : Nat → List Char → Read Value
  | 0, cs => .error (.problem .unexpectedEnd cs.length)
  | fuel + 1, cs =>
    match Text.trimLeft cs with
    | [] => .error (.problem .unexpectedEnd 0)
    | c :: cs =>
      if c = '[' then
        match items fuel ']' cs with
        | .error f => .error f
        | .ok (vs, rest) => .ok (.list vs, rest)
      else if c = '(' then tuple fuel cs
      else if c = '{' then braces fuel cs
      else if isQuote c then
        match strings cs.length c cs with
        | .error f => .error f
        | .ok (s, rest) => .ok (.text (String.ofList s), rest)
      else if startsNumber c then number false (c :: cs)
      else if c = '-' ∨ c = '+' then
        match Text.trimLeft cs with
        | d :: rest =>
          if startsNumber d then number (c = '-') (d :: rest)
          else .error (.problem .signWithoutNumber (d :: rest).length)
        | [] => .error (.problem .signWithoutNumber 0)
      else if Text.isLetter c ∨ c = '_' then name (c :: cs)
      else .error (.problem (.unexpectedChar c) (c :: cs).length)

/-- Values separated by commas up to the closing mark; a comma may stand before it. -/
def items : Nat → Char → List Char → Read (List Value)
  | 0, _, cs => .error (.problem .unexpectedEnd cs.length)
  | fuel + 1, close, cs =>
    match Text.trimLeft cs with
    | c :: rest =>
      if c = close then .ok ([], rest) else itemsFrom fuel close (c :: rest)
    | [] => itemsFrom fuel close []

/-- At least one value, then as `items`. -/
def itemsFrom : Nat → Char → List Char → Read (List Value)
  | 0, _, cs => .error (.problem .unexpectedEnd cs.length)
  | fuel + 1, close, cs =>
    match value fuel cs with
    | .error f => .error f
    | .ok (v, rest) =>
      match Text.trimLeft rest with
      | c :: rest =>
        if c = close then .ok ([v], rest)
        else if c = ',' then
          match items fuel close rest with
          | .error f => .error f
          | .ok (vs, rest) => .ok (v :: vs, rest)
        else .error (expectedCommaOr close (c :: rest))
      | [] => .error (expectedCommaOr close [])

/-- What follows an opening parenthesis: nothing, a value in parentheses, or a tuple. -/
def tuple : Nat → List Char → Read Value
  | 0, cs => .error (.problem .unexpectedEnd cs.length)
  | fuel + 1, cs =>
    match Text.trimLeft cs with
    | ')' :: rest => .ok (.list [], rest)
    | cs =>
      match value fuel cs with
      | .error f => .error f
      | .ok (v, rest) =>
        match Text.trimLeft rest with
        | c :: rest =>
          if c = ')' then .ok (v, rest)
          else if c = ',' then
            match items fuel ')' rest with
            | .error f => .error f
            | .ok (vs, rest) => .ok (.list (v :: vs), rest)
          else .error (expectedCommaOr ')' (c :: rest))
        | [] => .error (expectedCommaOr ')' [])

/-- What follows an opening brace: an empty dict, a dict or a set. -/
def braces : Nat → List Char → Read Value
  | 0, cs => .error (.problem .unexpectedEnd cs.length)
  | fuel + 1, cs =>
    match Text.trimLeft cs with
    | '}' :: rest => .ok (.object [], rest)
    | cs =>
      match value fuel cs with
      | .error f => .error f
      | .ok (first, rest) =>
        match Text.trimLeft rest with
        | c :: rest =>
          if c = ':' then
            match fields fuel first [] rest with
            | .error f => .error f
            | .ok (fs, rest) => .ok (.object fs, rest)
          else if c = '}' then .ok (.list [first], rest)
          else if c = ',' then
            match items fuel '}' rest with
            | .error f => .error f
            | .ok (vs, rest) => .ok (.list (distinct (first :: vs)), rest)
          else .error (expectedCommaOr '}' (c :: rest))
        | [] => .error (expectedCommaOr '}' [])

/-- The rest of a dict behind the colon of a key; `done` holds the fields read so far. -/
def fields : Nat → Value → List (String × Value) → List Char → Read (List (String × Value))
  | 0, _, _, cs => .error (.problem .unexpectedEnd cs.length)
  | fuel + 1, key, done, cs =>
    match value fuel cs with
    | .error f => .error f
    | .ok (v, rest) =>
      match keyText? key with
      | none => .error (.unhashableKey key)
      | some k =>
        let done := Value.insertField k v done
        match Text.trimLeft rest with
        | c :: rest =>
          if c = '}' then .ok (done, rest)
          else if c = ',' then
            match Text.trimLeft rest with
            | '}' :: rest => .ok (done, rest)
            | rest =>
              match value fuel rest with
              | .error f => .error f
              | .ok (key, rest) =>
                match Text.trimLeft rest with
                | ':' :: rest => fields fuel key done rest
                | rest => .error (.problem .expectedColon rest.length)
          else .error (expectedCommaOr '}' (c :: rest))
        | [] => .error (expectedCommaOr '}' [])

end

/-- Values separated by commas up to the end of the text, behind a first comma; a comma may stand at
the end. -/
def topItems : Nat → List Char → Read (List Value)
  | 0, cs => .error (.problem .unexpectedEnd cs.length)
  | fuel + 1, cs =>
    match Text.trimLeft cs with
    | [] => .ok ([], [])
    | cs =>
      match value fuel cs with
      | .error f => .error f
      | .ok (v, rest) =>
        match Text.trimLeft rest with
        | ',' :: rest =>
          match topItems fuel rest with
          | .error f => .error f
          | .ok (vs, rest) => .ok (v :: vs, rest)
        | rest => .ok ([v], rest)

/-- The fuel that is enough for a text. -/
def fuelFor (cs : List Char) : Nat := 3 * cs.length + 3

/-- A whole text as a literal.  Values separated by commas are a tuple. -/
def read (cs : List Char) : Except Fault Value :=
  match Text.trimLeft cs with
  | [] => .error (.problem .empty 0)
  | cs =>
    match value (fuelFor cs) cs with
    | .error f => .error f
    | .ok (first, rest) =>
      let whole : Read Value := match Text.trimLeft rest with
        | ',' :: rest =>
          match topItems (fuelFor cs) rest with
          | .error f => .error f
          | .ok (vs, rest) => .ok (.list (first :: vs), rest)
        | rest => .ok (first, rest)
      match whole with
      | .error f => .error f
      | .ok (v, rest) =>
        match Text.trimLeft rest with
        | [] => .ok v
        | rest => .error (.problem .trailingInput rest.length)

/-- The value that a source text spells out. -/
def parse (source : String) : Except Error Value :=
  match read source.toList with
  | .ok v => .ok v
  | .error f => .error (f.error source)

/-- A raw argument: the literal it spells out, or else its text without blanks at the ends. -/
def coerce (raw : List Char) : Value :=
  let text := Text.trim raw
  match read text with
  | .ok v => v
  | .error _ => .text (String.ofList text)

end Literal

end PageScript
