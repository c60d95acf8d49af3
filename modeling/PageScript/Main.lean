import PageScript.CommandLine.Program
import PageScript.CommandLine.Usage
import Std.Time.DateTime.Timestamp

/-!
# The program on a real machine

Everything the program does is decided by `Program.start`.  Here it is given what the machine has:
its arguments, the scripts that it names and their inclusions, the time and chance.  Then what it has
put out is written, and its code is handed on.

No line to a browser is laid here, so a script that needs one is told that there is none.
-/

namespace PageScript

namespace Machine

/-- What stands at a place of the file system. -/
def entryAt (place : List String) : IO (Option Entry) := do
  try
    let bytes ← IO.FS.readBinFile ("/" ++ Text.join "/" place)
    return some (.file (String.fromUTF8? bytes))
  catch e =>
    match e with
    | .noFileOrDirectory .. => return none
    | _ => return some .directory

/-- Adds to a tree what stands along names from a place. -/
def survey (tree : FileTree) (place : List String) : List String → IO FileTree
  | [] => return tree
  | name :: rest =>
    if name = "" || name = "." then survey tree place rest
    else if name = ".." then survey tree place.dropLast rest
    else do
      let next := place ++ [name]
      match ← entryAt next with
      | some e => survey (tree.put next e) next rest
      | none => survey tree next rest

/-- Adds a script to a tree, and what it includes as far down as inclusions may be nested. -/
def gather : (levels : Nat) → FileTree → (path : String) → IO FileTree
  | 0, tree, _ => return tree
  | levels + 1, tree, path => do
    let names := (Text.splitAll '/' path.toList).map String.ofList
    let mut tree ← survey tree (if Path.isAbsolute path then [] else tree.here) names
    match (Script.load tree path).1 with
    | .error _ => return tree
    | .ok script =>
      for c in script.commands do
        if c.name = "include" then
          if let some (.text inner) := c.argument then
            tree ← gather levels tree (Path.join script.directory inner)
      return tree

/-- A sequence of numbers from a first one. -/
def chance (seed : Nat) (n : Nat) : Nat :=
  (hash (seed, n)).toNat * Nat.pow 2 64 + (hash (n, seed)).toNat

/-- The name of a level in front of a note. -/
def levelText : Level → String
  | .error => "ERROR"
  | .warn => " WARN"
  | .info => " INFO"

/-- A piece of output as text. -/
def outputText : Output → String
  | .text s => s
  | .note level text => levelText level ++ " " ++ text ++ "\n"

/-- Runs the program on a command line that has been read. -/
def run (l : CommandLine) : IO UInt32 := do
  let here := ((Text.splitAll '/' (← IO.currentDir).toString.toList).map String.ofList).filter
    (!·.isEmpty)
  let mut files := FileTree.ofFiles here []
  for path in l.files do
    files ← gather (maxIncludeDepth + 1) files path
  let now ← Std.Time.Timestamp.now
  let seed ← IO.rand 0 (Nat.pow 2 62)
  let outside : Surroundings :=
    ⟨⟨chance seed, 0⟩, now.toNanosecondsSinceUnixEpoch.val.toNat, fun _ => 0, [], [], []⟩
  let link := Link.broken (.browser "Chrome not found")
  let (code, desk) := (Program.start link l).run ⟨(), files, outside⟩
  for o in desk.outside.output do
    IO.print (outputText o)
  return code.toUInt32

end Machine

end PageScript

open PageScript in
/-- Reads the command line and runs the program. -/
def main (args : List String) : IO UInt32 := do
  match CommandLine.ofArguments args with
  | .ok l => Machine.run l
  | .error .help =>
    IO.print CommandLine.help
    return 0
  | .error .version =>
    IO.println "pagescript 0.1.0"
    return 0
  | .error f =>
    IO.eprint ("error: " ++ f.message ++ "\n\n" ++ CommandLine.usage)
    return 2
