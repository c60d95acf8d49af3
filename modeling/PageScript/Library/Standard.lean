import PageScript.Library.Chance
import PageScript.Text.Case

/-!
# The standard modules

What every script may import: `random`, `string`, `time`, `os` and `utils`.
-/

namespace PageScript

namespace Library

/-- The ASCII letters, small ones first. -/
def letters : List Char := "abcdefghijklmnopqrstuvwxyzABCDEFGHIJKLMNOPQRSTUVWXYZ".toList

/-- The decimal digits. -/
def digits : List Char := "0123456789".toList

/-- A text of drawn characters. -/
def drawText (alphabet : List Char) (length : Nat) : Taking String := do
  return String.ofList (← Surroundings.times (Surroundings.pickOr '0' alphabet) length)

/-- An optional length. -/
def length (function : String) (default : Nat) (args : List Value) : Except Error Nat := do
  checkCount function args 0 1
  match args with
  | [] => return default
  | v :: _ =>
    let n ← int function v
    if n < 0 then throw (.argument (function ++ "() length must be positive"))
    return n.toNat

/-- One value as a text, with its letters changed. -/
def recased (function : String) (change : String → String) : Callable := pure fun args => do
  checkCount function args 1 1
  return .text (change (nth args 0).plainText)

/-- The module `string`. -/
def text : Module where
  name := "string"
  functions :=
    [("ascii_letters", taking (length "ascii_letters" 8) fun n => do
        return .text (← drawText letters n)),
      ("digits", taking (length "digits" 6) fun n => do return .text (← drawText digits n)),
      ("upper", recased "upper" Text.upper),
      ("lower", recased "lower" Text.lower)]

/-- The format of a time when none is given. -/
def usualFormat : String := "%Y-%m-%d %H:%M:%S"

/-- The present moment in seconds, to the millisecond. -/
def secondsNow (now : Moment) : Double := (Double.ofInt (now / 1000000 : Nat)).div (.ofInt 1000)

/-- An optional format, which must have a meaning. -/
def format (args : List Value) : Except Error String := do
  checkCount "strftime" args 0 1
  let format := match args with
    | [] => usualFormat
    | v :: _ => v.plainText
  match TimeFormat.read format with
  | some _ => return format
  | none => throw (.argument ("strftime() invalid format '" ++ format ++ "'"))

/-- The module `time`. -/
def time : Module where
  name := "time"
  functions :=
    [("time", taking (checkCount "time" · 0 0) fun _ => do
        return .ofDouble (secondsNow (← Surroundings.look))),
      ("strftime", taking format fun format => do
        return .text ((TimeFormat.text? format (← Surroundings.look)).getD ""))]

/-- The module `os`. -/
def environment : Module where
  name := "os"
  functions :=
    [("getenv", taking (fun args => do checkCount "getenv" args 1 2; return args) fun args => do
        match ← Surroundings.fromEnvironment (nth args 0).plainText with
        | some v => return .text v
        | none => return nth args 1)]

/-- A typed line as a text without its line end; none if it is no text. -/
def lineText? (line : List UInt8) : Option String :=
  (String.fromUTF8? ⟨line.toArray⟩).map fun s =>
    String.ofList (Text.dropRightWhile (fun c => c = '\r' || c = '\n') s.toList)

/-- Asks for a line: prints the question and takes what is typed. -/
def ask : Callable := fun args => do
  match checkCount "prompt" args 0 1 with
  | .error e => throw e
  | .ok () =>
    let question := match args with
      | [] => ""
      | v :: _ => v.plainText
    Surroundings.print (question ++ ": ")
    match lineText? (← Surroundings.takeLine) with
    | some s => return .text s
    | none => throw (.io "stream did not contain valid UTF-8")

/-- The module `utils`. -/
def questions : Module := ⟨"utils", [("prompt", ask)]⟩

/-- The standard modules. -/
def standard : Registry := ⟨[chance, text, time, environment, questions]⟩

end Library

end PageScript
