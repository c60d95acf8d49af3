import PageScript.Browser.Session
import PageScript.CommandLine.Arguments
import PageScript.CommandLine.Checking
import PageScript.Library.Standard
import PageScript.Run.Script

/-!
# The program

The program reads its command line and then checks the scripts, or runs them one after another, or
has workers run them.  A worker is the program again with a command line of its own that names one
script.  Every script is run with a browser of its own.  The program ends with a code that tells
whether all went well.
-/

namespace PageScript

/-- What a program finds around it. -/
structure Desk (τ : Type) where
  /-- The browser at the other end of the link. -/
  far : τ
  files : FileTree
  outside : Surroundings

/-- A part of a program. -/
abbrev Program (τ α : Type) := StateM (Desk τ) α

namespace Program

variable {τ α : Type}

/-- An action on the surroundings alone. -/
def outside (action : Taking α) : Program τ α := fun desk =>
  let (x, after) := action desk.outside
  (x, { desk with outside := after })

/-- Prints a line. -/
def line (text : String) : Program τ Unit := outside (Surroundings.print (text ++ "\n"))

/-- Makes a note. -/
def note (level : Level) (text : String) : Program τ Unit :=
  outside (Surroundings.note level text)

/-! ## Running one script -/

/-- Reads a script. -/
def load (path : String) : Program τ (Except Error Script) := do
  let (loaded, warnings) := Script.load (← get).files path
  outside (Doing.notes (warnings.map (.warn, ·)))
  return loaded

/-- Launches a browser. -/
def launch (link : Link τ) (config : Config) : Program τ (Except Error (Browsing τ)) := fun desk =>
  let (launched, far) := Browsing.launch link config desk.files desk.far
  (launched, { desk with far })

/-- Runs a script with a browser. -/
def runScript (link : Link τ) (l : CommandLine) (script : Script) (b : Browsing τ) :
    Program τ (Except Error Report × Browsing τ) := fun desk =>
  let setup : Setup (Browsing τ) :=
    ⟨Browsing.session link l.config, Library.standard, Fake.generate, l.options, desk.files⟩
  let ending := setup.run script ⟨b, desk.outside⟩
  ((ending.result, ending.world.session), { desk with outside := ending.world.outside })

/-- Quits a browser; what it did to files stays. -/
def close (link : Link τ) (b : Browsing τ) : Program τ Unit := do
  let (result, b) := (Use.quit link).run.run b
  modify fun desk => { desk with far := b.far, files := b.files }
  match result with
  | .ok () => return ()
  | .error e => note .warn ("Failed to close browser: " ++ e.message)

/-- Tells how a run went; the answer is whether the program goes well with it. -/
def tell (l : CommandLine) (millis : Nat) : Except Error Report → Program τ Bool
  | .ok r => do
    if r.success then line "✓ Success"
    else
      line ("✗ " ++ Nat.repr r.failures.length ++ " failed")
      tellFailures r.failures
    line ("  Commands: " ++ Nat.repr r.executed)
    line ("  Duration: " ++ Nat.repr millis ++ "ms")
    return r.success || !l.has .errors
  | .error e => do
    line "✗ Aborted"
    line ("  Error: " ++ e.message)
    return false
where
  /-- Tells which commands failed. -/
  tellFailures : List Failure → Program τ Unit
    | [] => return ()
    | f :: fs => do
      line ("  [" ++ Nat.repr f.index ++ "] " ++ f.error)
      tellFailures fs

/-- Runs the script of a path with a browser of its own. -/
def runFile (link : Link τ) (l : CommandLine) (path : String) : Program τ Bool := do
  match ← load path with
  | .error e =>
    line ("✗ Failed to load: " ++ e.message)
    return false
  | .ok script =>
    match ← launch link l.config with
    | .error e =>
      line ("✗ Failed to launch browser: " ++ e.message)
      return false
    | .ok b =>
      let began ← outside Surroundings.look
      let (result, b) ← runScript link l script b
      let ended ← outside Surroundings.look
      close link b
      line ""
      tell l ((ended - began) / 1000000) result

/-! ## Running scripts -/

/-- Runs the scripts of paths one after another. -/
def runFiles (link : Link τ) (l : CommandLine) : List String → Program τ Bool
  | [] => return true
  | path :: paths => do
    line ("Processing " ++ path ++ ":")
    let well ← runFile link l path
    let rest ← runFiles link l paths
    return well && rest

/-- Checks the scripts; the answer is the code of the program. -/
def check (l : CommandLine) : Program τ Nat := do
  let files := (← get).files
  let problems ← outside (Checking.checkAll files (l.has .strict) l.files)
  if 0 < problems then
    line (Nat.repr problems ++ " problem(s) found")
    return 1
  else
    line "All scripts valid"
    return 0

/-- Checks or runs the scripts without workers; the answer is the code of the program. -/
def alone (link : Link τ) (l : CommandLine) : Program τ Nat := do
  if l.has .check then check l
  else
    let well ← runFiles link l l.files
    return if well then 0 else 1

/-- Leaves out the notes that a command line does not ask for. -/
def screen (l : CommandLine) (output : List Output) : List Output :=
  output.filter fun o =>
    match o with
    | .note level _ => l.shows level
    | _ => true

/-- Runs a part of a program whose notes are shown as a command line says. -/
def screened (l : CommandLine) (part : Program τ α) : Program τ α := fun desk =>
  let (x, after) := part { desk with outside := { desk.outside with output := [] } }
  let output := desk.outside.output ++ screen l after.outside.output
  (x, { after with outside := { after.outside with output } })

/-- The code of a program whose command line says nothing that can be done. -/
def faultCode : CommandLine.Fault → Nat
  | .help => 0
  | .version => 0
  | _ => 2

/-- A worker; the answer is its code.  It has one script, so it has no workers of its own. -/
def worker (link : Link τ) (args : List String) : Program τ Nat :=
  match CommandLine.ofArguments args with
  | .error f => return faultCode f
  | .ok l => screened l (alone link l)

/-- Has workers run the scripts of paths; the answer is whether all went well. -/
def work (link : Link τ) (l : CommandLine) : List String → Program τ Bool
  | [] => return true
  | path :: paths => do
    let code ← worker link (l.toArguments path)
    let rest ← work link l paths
    return code = 0 && rest

/-- The program on a command line that has been read; the answer is its code. -/
def start (link : Link τ) (l : CommandLine) : Program τ Nat :=
  if !l.has .check && 1 < l.workerCount && 1 < l.files.length then do
    let well ← work link l l.files
    return if well then 0 else 1
  else screened l (alone link l)

end Program

end PageScript
