import PageScript.Script.Command
import PageScript.Document.Content
import PageScript.Document.Json
import PageScript.Yaml.Node
import PageScript.Yaml.Text
import PageScript.Files.Tree

/-!
# Scripts

A script is a list of commands, and knows the file that it was read from.  A script document is a
list whose items are names or objects with one field.  It is written in YAML or in JSON, which the
extension of a file tells, or is a value already.

Reading goes along the document, so the first thing wrong in it is reported, be it the spelling of
the document or the shape of a command.
-/

namespace PageScript

/-- The language of a script document. -/
inductive Format where
  | yaml
  | json
deriving DecidableEq, Repr

namespace Format

/-- The language that the extension of a path tells. -/
def ofPath? (path : String) : Option Format :=
  match Path.kind? path with
  | some "yaml" => some .yaml
  | some "yml" => some .yaml
  | some "json" => some .json
  | _ => none

end Format

/-- A list of commands. -/
structure Script where
  commands : List Command
  /-- The file that holds the script. -/
  path : Option String
deriving Repr

namespace Script

/-- What keeps a document from being a script. -/
inductive Fault where
  /-- A command is a blank text. -/
  | blankName
  /-- A command is an empty object. -/
  | noName
  | twoNames (first second : String)
  /-- The document is malformed or has something else where a command should be. -/
  | malformed

/-- The text of a fault. -/
def Fault.message : Fault → String
  | .blankName => "command name must not be empty"
  | .noName => "expected command name key"
  | .twoNames first second =>
    "expected exactly one operation per command, found '" ++ first ++ "' and '" ++ second ++ "'"
  | .malformed => "the document is malformed or no list of commands"

/-! ## Reading commands -/

/-- A command that is a text: its name without the blanks around it. -/
def bareCommand (name : String) : Except Fault Command :=
  let name := Text.trimmed name
  if name.isEmpty then .error .blankName else .ok ⟨name, none⟩

/-- The command in front of a stream of events, and the events behind it. -/
def readCommand (room : Nat) : List Event → Except Fault (Command × List Event)
  | .scalar _ (some (.text s)) :: rest => (bareCommand s).map (·, rest)
  | .mapStart false :: .mapEnd :: _ => .error .noName
  | .mapStart false :: .scalar name _ :: rest =>
    match Document.readValue room [] rest with
    | some (v, .mapEnd :: rest) => .ok (.withArgument name v, rest)
    | some (_, .scalar second _ :: _) => .error (.twoNames name second)
    | _ => .error .malformed
  | _ => .error .malformed

/-- The commands up to the end of the list, and the events behind it.  Every command takes an
event, so `fuel` may be their number. -/
def readCommands (room : Nat) : Nat → List Event → Except Fault (List Command × List Event)
  | _, .listEnd :: rest => .ok ([], rest)
  | 0, _ => .error .malformed
  | fuel + 1, events => do
    let (c, rest) ← readCommand room events
    let (cs, rest) ← readCommands room fuel rest
    return (c :: cs, rest)

/-- The commands of a document.  `room` bounds how deep an argument may be nested, and `blank` tells
that a document without content has no commands. -/
def ofDocument (room : Nat) (blank : Bool) (d : Document) : Except Fault (List Command) :=
  match d.events with
  | .listStart _ :: events => do
    let (cs, rest) ← readCommands room events.length events
    if rest.isEmpty && d.sound then return cs else throw .malformed
  | [] => if blank && d.sound then .ok [] else .error .malformed
  | _ => .error .malformed

/-- A YAML text as a script. -/
def ofYaml (text : String) : Except Error Script :=
  if (Text.trim text.toList).isEmpty then .ok ⟨[], none⟩
  else match ofDocument (Yaml.depthLimit - 2) true (Yaml.document text) with
    | .ok cs => .ok ⟨cs, none⟩
    | .error f => .error (.yaml f.message)

/-- A JSON text as a script. -/
def ofJson (text : String) : Except Error Script :=
  match ofDocument Json.depthLimit false (Json.document text) with
  | .ok cs => .ok ⟨cs, none⟩
  | .error f => .error (.json f.message)

/-- A text as a script. -/
def ofText (format : Format) (text : String) : Except Error Script :=
  match format with
  | .yaml => ofYaml text
  | .json => ofJson text

/-- A value as a script. -/
def ofValue (v : Value) : Except Error Script :=
  let d := Document.ofValue v
  match ofDocument d.events.length false d with
  | .ok cs => .ok ⟨cs, none⟩
  | .error f => .error (.json f.message)

/-- The command as a YAML list of its own, as reports show it. -/
def reportText (c : Command) : String :=
  String.ofList (Text.trimRight (Yaml.text (.list [c.toValue])).toList)

/-! ## Files -/

/-- The warning of a file whose extension tells no language. -/
def unknownFormat (path : String) : String :=
  "couldn't detect file type of '" ++ path ++ "' from its extension, defaulting to YAML"

/-- The script in a file, and the warnings on the way. -/
def load (files : FileTree) (path : String) : Except Error Script × List String :=
  match files.read path with
  | .error f => (.error f.error, [])
  | .ok text =>
    let (format, warnings) := match Format.ofPath? path with
      | some format => (format, [])
      | none => (.yaml, [unknownFormat path])
    match ofText format text with
    | .ok script => (.ok { script with path := some path }, warnings)
    | .error e => (.error e, warnings)

/-- The directory that relative paths in a script go from. -/
def directory (s : Script) : String := (s.path.bind Path.parent?).getD "."

end Script

end PageScript
