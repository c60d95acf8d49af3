import PageScript.Run.Commands

/-!
# Checking scripts

A script is checked without being run: it is read with all scripts that it includes, and commands
that name no operation are listed.  An inclusion whose argument is not a text is not followed.  What
counts as a problem is a script that cannot be read, an inclusion nested too deep, and, when the
check is strict, a command that names no operation.
-/

namespace PageScript

namespace Checking

/-- Prints a line, moved to the right by a number of steps. -/
def line (steps : Nat) (text : String) : Taking Unit :=
  Surroundings.print (String.ofList (List.replicate (2 * steps) ' ') ++ text ++ "\n")

/-- Checks the script of a path. -/
abbrev Course := (path : String) → Taking Nat

/-- The problems of one command.  `inner` checks what it includes, if inclusions may be nested
further. -/
def checkCommand (strict : Bool) (depth : Nat) (directory : String) (inner : Option Course)
    (c : Command) : Taking Nat :=
  if c.name = "include" then
    match c.argument with
    | some (.text path) =>
      let path := Path.join directory path
      match inner with
      | some check => check path
      | none => do
        line (depth + 1) ("✗ include too deep: " ++ path)
        return 1
    | _ => do
      line (depth + 1) "? include with a computed path (not checked)"
      return 0
  else if (Operation.ofName? c.name).isNone && !reservedNames.contains c.name then do
    line (depth + 1) ("? unknown command: " ++ c.name)
    return if strict then 1 else 0
  else return 0

/-- The problems of commands. -/
def checkCommands (check : Command → Taking Nat) : List Command → Taking Nat
  | [] => return 0
  | c :: cs => do
    let n ← check c
    let m ← checkCommands check cs
    return n + m

/-- The problems of a script.  Problems of what it includes count, too. -/
def checkScript (files : FileTree) (strict : Bool) (depth : Nat) (inner : Option Course) :
    Course := fun path => do
  let (loaded, warnings) := Script.load files path
  Doing.notes (warnings.map (.warn, ·))
  match loaded with
  | .error e =>
    line 0 ("✗ " ++ path ++ ": " ++ e.message)
    return 1
  | .ok script =>
    let n ← checkCommands (checkCommand strict depth script.directory inner) script.commands
    line depth (path ++ ": " ++ Nat.repr script.commands.length ++ " commands")
    return n

/-- The problems of a script with a number of levels left for inclusions. -/
def checkWithin (files : FileTree) (strict : Bool) : (levels depth : Nat) → Course
  | 0, depth => checkScript files strict depth none
  | levels + 1, depth =>
    checkScript files strict depth (some (checkWithin files strict levels (depth + 1)))

/-- The problems of a script. -/
def check (files : FileTree) (strict : Bool) : Course :=
  checkWithin files strict maxIncludeDepth 0

/-- The problems of scripts. -/
def checkAll (files : FileTree) (strict : Bool) : List String → Taking Nat
  | [] => return 0
  | path :: paths => do
    let n ← check files strict path
    let m ← checkAll files strict paths
    return n + m

end Checking

end PageScript
