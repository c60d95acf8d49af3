import PageScript.Arguments
import PageScript.Yaml.Node

/-!
# Configuration of a session

What a session is started with: how the browser is launched, where relative addresses go, how long
to wait by default, and how elements are approached.  A configuration may be read from a YAML
mapping, in which every field may be missing and unknown fields are passed over.
-/

namespace PageScript

/-- The size of the visible part of a page. -/
structure Viewport where
  width : Nat
  height : Nat
deriving DecidableEq, Repr

/-- The configuration of a session. -/
structure Config where
  headless : Bool
  /-- What stands before a relative address. -/
  baseUrl : String
  /-- How long to wait when nothing else is said, in seconds. -/
  timeoutSeconds : Nat
  /-- The distance from the top of the window to which an element is scrolled. -/
  defaultOffset : Int
  /-- An element is scrolled into view before it is used. -/
  scrollToElement : Bool
  /-- The window comes to the front at the start. -/
  focus : Bool
  /-- The session is watched: cursor and keys are shown, text is typed, commands are paced. -/
  demo : Bool
  proxy : Option String
  /-- The name that the browser gives itself. -/
  userAgent : Option String
  viewport : Option Viewport
  /-- The time between two checks of a condition, in milliseconds. -/
  pollMillis : Nat
deriving DecidableEq, Repr

namespace Config

/-- The configuration when nothing is said. -/
def usual : Config where
  headless := false
  baseUrl := "http://127.0.0.1:5000"
  timeoutSeconds := 30
  defaultOffset := 0
  scrollToElement := false
  focus := false
  demo := false
  proxy := none
  userAgent := none
  viewport := none
  pollMillis := 100

/-- How long to wait when nothing else is said. -/
def timeout (c : Config) : Duration := .ofSeconds c.timeoutSeconds

/-- The time between two checks of a condition, which is never zero. -/
def pollInterval (c : Config) : Duration := .ofMillis (max c.pollMillis 1)

theorem pollInterval_pos (c : Config) : 0 < c.pollInterval :=
  Nat.mul_pos (Nat.lt_of_lt_of_le Nat.zero_lt_one (Nat.le_max_right ..)) (by decide)

/-- A full address stands for itself, any other goes behind the base. -/
def resolveUrl (c : Config) (url : String) : String :=
  if Text.startsWith "http://".toList url.toList || Text.startsWith "https://".toList url.toList
  then url
  else c.baseUrl ++ url

/-! ## Reading

A known field is read by its type, which decides what a scalar means there: a text field takes the
text of any scalar, a number or boolean field a scalar that is spelled like one and not in quotes.
An unknown field is passed over as it is written, whatever its aliases stand for. -/

/-- Takes something from the front of the steps of a document. -/
abbrev Reader (α : Type) := List (Yaml.Step Nat) → Option (α × List (Yaml.Step Nat))

/-- Reads the node that an alias stands for in its place. -/
def throughAlias {α : Type} (o : Yaml.Outline) (read : Reader α) : Reader α
  | .alias number :: rest => (read (o.node number)).map fun (x, _) => (x, rest)
  | steps => read steps

/-- The text of a scalar, whatever it is written like. -/
def readText (o : Yaml.Outline) : Reader String :=
  throughAlias o fun
    | .scalar _ _ text _ :: rest => some (text, rest)
    | _ => none

/-- A scalar whose text has a meaning.  It has no marks around it, or is a block that keeps its lines
and is tagged with the type. -/
def readSpelled {α : Type} (o : Yaml.Outline) (type : String) (meaning : String → Option α) :
    Reader α :=
  throughAlias o fun
    | .scalar _ tag text form :: rest =>
      if form = .plain || (form = .literal && tag = some (Yaml.standardTag type))
      then (meaning text).map (·, rest)
      else none
    | _ => none

/-- A boolean. -/
def readBool (o : Yaml.Outline) : Reader Bool := readSpelled o "bool" Yaml.boolWord?

/-- A natural number up to a bound. -/
def readNat (o : Yaml.Outline) (bound : Nat) : Reader Nat :=
  readSpelled o "int" fun s => (Yaml.natural? s.toList).filter (· ≤ bound)

/-- An integer of 64 bits. -/
def readInt (o : Yaml.Outline) : Reader Int :=
  readSpelled o "int" fun s =>
    match Yaml.numeral s.toList with
    | .integer n => if n ≤ Reading.int64Max then some n else none
    | _ => none

/-- Something that may be null, which is written without quotes.  A scalar tagged as null must be
spelled like null; under any other tag a scalar is not null. -/
def readOption {α : Type} (o : Yaml.Outline) (read : Reader α) : Reader (Option α) :=
  let present : Reader (Option α) := fun steps => (read steps).map fun (x, rest) => (some x, rest)
  throughAlias o fun
    | .scalar anchor tag text .plain :: rest =>
      match tag with
      | none =>
        if text.isEmpty || Yaml.isNullWord text then some (none, rest)
        else present (.scalar anchor tag text .plain :: rest)
      | some tag =>
        if tag = Yaml.standardTag "null" then
          if Yaml.isNullWord text then some (none, rest) else none
        else present (.scalar anchor (some tag) text .plain :: rest)
    | steps => present steps

/-- Passes over a node with all that is in it; `depth` nodes are open already. -/
def skip : (depth : Nat) → List (Yaml.Step Nat) → Option (List (Yaml.Step Nat))
  | _, [] => none
  | depth, .listStart .. :: rest => skip (depth + 1) rest
  | depth, .mapStart .. :: rest => skip (depth + 1) rest
  | 0, .scalar .. :: rest => some rest
  | 0, .alias _ :: rest => some rest
  | 0, _ => none
  | 1, .listEnd :: rest => some rest
  | 1, .mapEnd :: rest => some rest
  | depth + 1, .listEnd :: rest => skip depth rest
  | depth + 1, .mapEnd :: rest => skip depth rest
  | depth + 1, .scalar .. :: rest => skip (depth + 1) rest
  | depth + 1, .alias _ :: rest => skip (depth + 1) rest

/-- The fields of a mapping up to its end.  `field` tells how a known field is read into what has
been read so far; a known field may stand there once.  Every field takes a step, so `fuel` may be
the number of steps. -/
def readFields {α : Type} (o : Yaml.Outline) (field : String → Option (α → Reader α)) :
    (fuel : Nat) → (seen : List String) → α → Reader α
  | _, _, x, .mapEnd :: rest => some (x, rest)
  | 0, _, _, _ => none
  | fuel + 1, seen, x, steps =>
    match readText o steps with
    | none => none
    | some (name, rest) =>
      match field name with
      | none => (skip 0 rest).bind (readFields o field fuel seen x)
      | some read =>
        if seen.contains name then none
        else match read x rest with
          | none => none
          | some (x, rest) => readFields o field fuel (name :: seen) x rest

/-- A mapping with known fields. -/
def readMapping {α : Type} (o : Yaml.Outline) (field : String → Option (α → Reader α)) (x : α) :
    Reader α :=
  throughAlias o fun
    | .mapStart .. :: rest => readFields o field rest.length [] x rest
    | _ => none

/-- Keeps what a reader takes in a part of something larger. -/
def into {α β : Type} (read : Reader β) (set : α → β → α) : Option (α → Reader α) :=
  some fun x steps => (read steps).map fun (y, rest) => (set x y, rest)

/-- A size, which must have both its fields. -/
def readViewport (o : Yaml.Outline) : Reader Viewport := fun steps =>
  let side := readNat o (Nat.pow 2 32 - 1)
  let field : String → Option (Option Nat × Option Nat → Reader (Option Nat × Option Nat))
    | "width" => into side fun size n => (some n, size.2)
    | "height" => into side fun size n => (size.1, some n)
    | _ => none
  match readMapping o field (none, none) steps with
  | some ((some width, some height), rest) => some (⟨width, height⟩, rest)
  | _ => none

/-- How a field of a configuration is read. -/
def readField (o : Yaml.Outline) : String → Option (Config → Reader Config)
  | "headless" => into (readBool o) fun c b => { c with headless := b }
  | "base_url" => into (readText o) fun c s => { c with baseUrl := s }
  | "timeout_secs" => into (readNat o (Nat.pow 2 64 - 1)) fun c n => { c with timeoutSeconds := n }
  | "default_offset" => into (readInt o) fun c n => { c with defaultOffset := n }
  | "scroll_to_element" => into (readBool o) fun c b => { c with scrollToElement := b }
  | "focus" => into (readBool o) fun c b => { c with focus := b }
  | "demo" => into (readBool o) fun c b => { c with demo := b }
  | "proxy" => into (readOption o (readText o)) fun c s => { c with proxy := s }
  | "user_agent" => into (readOption o (readText o)) fun c s => { c with userAgent := s }
  | "viewport" => into (readOption o (readViewport o)) fun c v => { c with viewport := v }
  | "poll_interval_ms" => into (readNat o (Nat.pow 2 64 - 1)) fun c n => { c with pollMillis := n }
  | _ => none

/-- The configuration that a YAML text gives.  A text without content gives the usual one. -/
def ofYaml (text : String) : Except Error Config :=
  let fault : Error := .yaml "the document is malformed or no configuration"
  let o := Yaml.outline text
  if !o.sound then .error fault
  else match o.steps with
    | [] => .ok usual
    | steps =>
      match readMapping o (readField o) usual steps with
      | some (c, _) => .ok c
      | _ => .error fault

end Config

end PageScript
