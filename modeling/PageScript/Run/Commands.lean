import PageScript.Run.Progress

/-!
# Running commands

Every command is counted when it is met.  A command is an inclusion, an import, a reading of the
page that is recorded, an operation, or unknown.  An inclusion runs the commands of another script
in its place; it is not counted as done itself.  When a command fails, the failure is noted and
collected, the session is stopped if the options say so, and the run ends if the options say so.

Inclusions may be nested ten deep.  `Setup.runWithin` is given the number of levels that are left,
so a script that includes itself comes to an end.
-/

namespace PageScript

/-- How deep inclusions may be nested. -/
def maxIncludeDepth : Nat := 10

namespace Setup

variable {σ : Type}

/-- What expressions are resolved with. -/
def resolver (setup : Setup σ) : Resolver := ⟨setup.fake, setup.options.unresolved⟩

/-- The arguments of a command, resolved. -/
def arguments (setup : Setup σ) (c : Command) : Running σ Arguments :=
  .resolving (c.arguments setup.resolver)

/-! ## Single commands -/

/-- Imports what a value names. -/
def importValue (setup : Setup σ) (v : Value) : Running σ Unit := do
  match v.scalarText with
  | none => throw (.argument ("import: expected a module name, got " ++ v.toText))
  | some spec =>
    let (_, names) ← Running.ofExcept (Importing.importSpec setup.registry spec (← get).names)
    modify fun p => { p with names }

/-- Imports what values name, in order. -/
def importValues (setup : Setup σ) : List Value → Running σ Unit
  | [] => return ()
  | v :: vs => do
    setup.importValue v
    setup.importValues vs

/-- Imports what a command names. -/
def importCommand (setup : Setup σ) (c : Command) : Running σ Unit := do
  let args ← setup.arguments c
  if args.values.isEmpty then throw (.argument "import: missing module name")
  setup.importValues args.values

/-- Reads a text from the page and records it under the name of the command. -/
def readCommand (setup : Setup σ) (c : Command) (read : String → Doing σ String) :
    Running σ Unit := do
  let args ← setup.arguments c
  let selector ← Running.ofExcept (args.text 0 "selector")
  if (← Running.status setup.session) = .stopped then throw .sessionStopped
  let text ← Running.doing (read selector)
  modify fun p => { p with names := p.names.record c.name (.text text) }

/-- Meets a command that names no operation. -/
def unknownCommand (setup : Setup σ) (name : String) : Running σ Unit :=
  match setup.options.unknown with
  | .ignore => return ()
  | .warn => Running.note .warn ("Unknown command '" ++ name ++ "', skipping")
  | .error => throw (.unknownCommand name)

/-- Runs a command other than an inclusion. -/
def runCommand (setup : Setup σ) (c : Command) : Running σ Unit :=
  match c.name with
  | "import" => setup.importCommand c
  | "value_of" => setup.readCommand c fun s => Doing.call setup.session (.getValue s)
  | "text_of" => setup.readCommand c fun s => Doing.call setup.session (.getText s)
  | name =>
    match Operation.ofName? name with
    | none => setup.unknownCommand name
    | some op => do
      let args ← setup.arguments c
      Running.doing (op.perform setup.session args)

/-! ## Failures -/

/-- Stops the session if it can be used; a failure to stop is a warning. -/
def stopSession (setup : Setup σ) : Running σ Unit := do
  if (← Running.status setup.session) = .running then
    match ← Running.attempt (Running.doing (Doing.call setup.session .stop)) with
    | .ok _ => return ()
    | .error e => Running.note .warn ("Failed to stop session: " ++ e.message)

/-- Takes note of a failed command. -/
def fail (setup : Setup σ) (index : Nat) (c : Command) (e : Error) : Running σ Unit := do
  let command := Script.reportText c
  Running.note .error
    ("Command " ++ Nat.repr index ++ " failed: " ++ e.message ++ "\n" ++ command)
  modify fun p => { p with failures := p.failures ++ [⟨index, command, e.message⟩] }
  if setup.options.stopOnFailure then setup.stopSession
  if setup.options.errors then throw e

/-! ## Inclusions -/

/-- Runs commands whose relative paths go from a directory. -/
abbrev Course (σ : Type) := (directory : String) → List Command → Running σ Unit

/-- The script that a command includes.  `deeper` tells that inclusions may be nested further. -/
def loadInclude (setup : Setup σ) (deeper : Bool) (directory : String) (c : Command) :
    Running σ Script := do
  let args ← setup.arguments c
  let path := Path.join directory (← Running.ofExcept (args.text 0 "path"))
  Running.note .info ("include: " ++ path)
  if !deeper then
    throw (.script ("maximum include depth (" ++ Nat.repr maxIncludeDepth ++ ") exceeded"))
  let (loaded, warnings) := Script.load setup.files path
  Running.outside (Doing.notes (warnings.map (.warn, ·)))
  match loaded with
  | .ok script => return script
  | .error e => throw (.script ("failed to load include '" ++ path ++ "': " ++ e.message))

/-- Begins with a command: counts it, tells it, and rests if spectators watch. -/
def meet (setup : Setup σ) (c : Command) : Running σ Nat := do
  modify fun p => { p with index := p.index + 1 }
  let index := (← get).index
  if setup.options.verbose then
    Running.note .info ("[" ++ Nat.repr index ++ "] " ++ c.text)
  if setup.session.config.demo then Running.outside Surroundings.rest
  return index

/-- Runs an inclusion.  `inner` runs what is included, if inclusions may be nested further. -/
def runInclude (setup : Setup σ) (inner : Option (Course σ)) (directory : String) (index : Nat)
    (c : Command) : Running σ Unit := do
  match ← Running.attempt (setup.loadInclude inner.isSome directory c) with
  | .error e => setup.fail index c e
  | .ok script =>
    match inner with
    | none => return ()
    | some run => run script.directory script.commands

/-- Runs a command other than an inclusion and takes note of how it went. -/
def runSingle (setup : Setup σ) (index : Nat) (c : Command) : Running σ Unit := do
  match ← Running.attempt (setup.runCommand c) with
  | .error e => setup.fail index c e
  | .ok _ => modify fun p => { p with executed := p.executed + 1 }

/-- Runs commands in order. -/
def runCommands (setup : Setup σ) (inner : Option (Course σ)) : Course σ
  | _, [] => return ()
  | directory, c :: cs => do
    let index ← setup.meet c
    if c.name = "include" then setup.runInclude inner directory index c
    else setup.runSingle index c
    setup.runCommands inner directory cs

/-- Runs commands with a number of levels left for inclusions. -/
def runWithin (setup : Setup σ) : (levels : Nat) → Course σ
  | 0 => setup.runCommands none
  | levels + 1 => setup.runCommands (some (setup.runWithin levels))

end Setup

end PageScript
