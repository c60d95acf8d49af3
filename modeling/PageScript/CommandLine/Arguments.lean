import PageScript.Session.Config
import PageScript.Run.Progress

/-!
# Command lines

A command line names the scripts to run and says how.  Options have long names behind two dashes and
some have a letter behind one; letters may stand together.  An option with a value has it behind an
equals sign, right behind its letter, or as the next argument, which then must not look like an
option, except for the offset, which may be negative.  Behind two dashes alone there are only
scripts.  Each option may be given once, but the one that asks for more output counts.

A value is looked at when the next option or script is met, so an unknown option is told before an
unfit value in front of it.

`toArguments` is the command line that a worker is started with.
-/

namespace PageScript

namespace CommandLine

/-! ## Options -/

/-- An option that has a value. -/
inductive Choice where
  /-- What stands before a relative address. -/
  | baseUrl
  /-- How long to wait by default. -/
  | timeout
  | defaultOffset
  /-- How many workers run the scripts. -/
  | workers
deriving DecidableEq, Repr

/-- An option that is given or not. -/
inductive Switch where
  /-- The first failure ends a script. -/
  | errors
  | headless
  | scrollToElement
  /-- The window comes to the front. -/
  | focus
  /-- The session is shown to spectators. -/
  | demo
  /-- Unknown commands and expressions are errors. -/
  | strict
  /-- Scripts are checked and not run. -/
  | check
  | quiet
deriving DecidableEq, Repr

/-- Any option. -/
inductive Key where
  | choice (c : Choice)
  /-- One that is given or not. -/
  | switch (s : Switch)
  /-- The one that asks for more output. -/
  | verbose
  /-- The one that asks for help. -/
  | help
  /-- The one that asks for the version. -/
  | version
deriving DecidableEq, Repr

/-- The long name of a switch. -/
def Switch.name : Switch → String
  | .errors => "errors"
  | .headless => "headless"
  | .scrollToElement => "scroll-to-element"
  | .focus => "focus"
  | .demo => "demo"
  | .strict => "strict"
  | .check => "check"
  | .quiet => "quiet"

/-- The long name of an option with a value. -/
def Choice.name : Choice → String
  | .baseUrl => "base-url"
  | .timeout => "timeout"
  | .defaultOffset => "default-offset"
  | .workers => "workers"

/-- The long name of an option. -/
def Key.name : Key → String
  | .choice c => c.name
  | .switch s => s.name
  | .verbose => "verbose"
  | .help => "help"
  | .version => "version"

/-- Every option. -/
def Key.all : List Key :=
  [.choice .baseUrl, .choice .timeout, .choice .defaultOffset, .choice .workers, .switch .errors,
    .switch .headless, .switch .scrollToElement, .switch .focus, .switch .demo, .switch .strict,
    .switch .check, .switch .quiet, .verbose, .help, .version]

/-- The option of a long name. -/
def Key.ofName? (name : String) : Option Key := all.find? fun k => k.name = name

/-- The option of a letter. -/
def Key.ofLetter? : Char → Option Key
  | 't' => some (.choice .timeout)
  | 'v' => some .verbose
  | 'q' => some (.switch .quiet)
  | 'h' => some .help
  | 'V' => some .version
  | _ => none

end CommandLine

/-- What a command line says. -/
structure CommandLine where
  files : List String
  /-- What stands before a relative address. -/
  baseUrl : Option String
  /-- How long to wait by default, in seconds. -/
  timeout : Option Nat
  defaultOffset : Option Int
  /-- How many workers run the scripts. -/
  workers : Option Nat
  switches : List CommandLine.Switch
  /-- How much output is asked for. -/
  verbosity : Nat
deriving DecidableEq, Repr

namespace CommandLine

/-- A command line that says nothing. -/
def empty : CommandLine := ⟨[], none, none, none, none, [], 0⟩

/-- A switch is given. -/
def has (l : CommandLine) (s : Switch) : Bool := l.switches.contains s

/-- The number of workers, one if nothing is said. -/
def workerCount (l : CommandLine) : Nat := l.workers.getD 1

/-! ## Reading -/

/-- Why a command line says nothing that can be done. -/
inductive Fault where
  | noFiles
  | unknownOption (text : String)
  /-- The value of an option is unfit. -/
  | unfitValue (option value : String)
  /-- The value of an option is missing, or a script has an empty name. -/
  | missingValue
  | repeated (option : String)
  /-- An option without a value is given one. -/
  | unexpectedValue (option : String)
  | help
  | version
deriving DecidableEq, Repr

/-- What has been met and not yet looked at. -/
inductive Pending where
  | nothing
  /-- An option that has, or still needs, its value. -/
  | value (c : Choice) (text : Option String)
  | files (paths : List String)
deriving DecidableEq, Repr

/-- How far a command line has been read. -/
structure Reading where
  /-- What it has said so far. -/
  line : CommandLine
  /-- What has been met and not yet looked at. -/
  pending : Pending
deriving DecidableEq, Repr

/-- Takes the value of an option. -/
def takeValue (l : CommandLine) (c : Choice) (text : String) : Except Fault CommandLine :=
  let unfit : Except Fault CommandLine := .error (.unfitValue c.name text)
  let repeated : Except Fault CommandLine := .error (.repeated c.name)
  let natural := Reading.nat64? text.toList
  match c with
  | .baseUrl => if l.baseUrl.isSome then repeated else .ok { l with baseUrl := some text }
  | .timeout =>
    if l.timeout.isSome then repeated
    else if natural.isNone then unfit else .ok { l with timeout := natural }
  | .defaultOffset =>
    let offset := Reading.int64? text.toList
    if l.defaultOffset.isSome then repeated
    else if offset.isNone then unfit else .ok { l with defaultOffset := offset }
  | .workers =>
    if l.workers.isSome then repeated
    else if natural.isNone then unfit else .ok { l with workers := natural }

/-- Looks at what is pending. -/
def settle (r : Reading) : Except Fault CommandLine :=
  match r.pending with
  | .nothing => .ok r.line
  | .value _ none => .error .missingValue
  | .value c (some text) => r.line.takeValue c text
  | .files paths =>
    if paths.contains "" then .error .missingValue
    else .ok { r.line with files := r.line.files ++ paths }

/-- Meets an option without a value behind it. -/
def meetOption (r : Reading) (k : Key) : Except Fault Reading := do
  let l ← settle r
  match k with
  | .choice c => return ⟨l, .value c none⟩
  | .switch s =>
    if l.has s then throw (.repeated s.name)
    else return ⟨{ l with switches := l.switches ++ [s] }, .nothing⟩
  | .verbose => return ⟨{ l with verbosity := min 255 (l.verbosity + 1) }, .nothing⟩
  | .help => throw .help
  | .version => throw .version

/-- Meets an option with a value behind it. -/
def meetWithValue (r : Reading) (k : Key) (text : String) : Except Fault Reading :=
  match k with
  | .choice c => do
    let l ← settle r
    return ⟨← l.takeValue c text, .nothing⟩
  | k => .error (.unexpectedValue k.name)

/-- Meets a long option: its name, and perhaps an equals sign and a value. -/
def meetLong (r : Reading) (cs : List Char) : Except Fault Reading :=
  let (name, value) := match Text.splitOnce '=' cs with
    | some (name, value) => (String.ofList name, some (String.ofList value))
    | none => (String.ofList cs, none)
  match Key.ofName? name, value with
  | none, _ => .error (.unknownOption ("--" ++ name))
  | some k, none => meetOption r k
  | some k, some text => meetWithValue r k text

/-- Meets letters.  Behind the letter of an option with a value stands the value. -/
def meetLetters (r : Reading) : List Char → Except Fault Reading
  | [] => .ok r
  | c :: cs =>
    match Key.ofLetter? c with
    | none => .error (.unknownOption (String.ofList ['-', c]))
    | some (.choice choice) =>
      match cs with
      | [] => meetOption r (.choice choice)
      | '=' :: text => meetWithValue r (.choice choice) (String.ofList text)
      | text => meetWithValue r (.choice choice) (String.ofList text)
    | some k => do meetLetters (← meetOption r k) cs

/-- Meets a script. -/
def meetFile (r : Reading) (path : String) : Except Fault Reading :=
  match r.pending with
  | .files paths => .ok ⟨r.line, .files (paths ++ [path])⟩
  | _ => do return ⟨← settle r, .files [path]⟩

/-- Meets scripts only. -/
def meetFiles (r : Reading) : List String → Except Fault Reading
  | [] => .ok r
  | path :: rest => do meetFiles (← meetFile r path) rest

/-- Meets arguments in order. -/
def meetArguments (r : Reading) : List String → Except Fault Reading
  | [] => .ok r
  | arg :: rest =>
    match r.pending with
    | .value .defaultOffset none =>
      meetArguments ⟨r.line, .value .defaultOffset (some arg)⟩ rest
    | pending =>
      match arg.toList with
      | ['-', '-'] => meetFiles r rest
      | '-' :: '-' :: cs => do meetArguments (← meetLong r cs) rest
      | '-' :: c :: cs => do meetArguments (← meetLetters r (c :: cs)) rest
      | _ =>
        match pending with
        | .value c none => meetArguments ⟨r.line, .value c (some arg)⟩ rest
        | _ => do meetArguments (← meetFile r arg) rest

/-- What arguments say. -/
def ofArguments (args : List String) : Except Fault CommandLine := do
  let l ← settle (← meetArguments ⟨empty, .nothing⟩ args)
  if l.files.isEmpty then throw .noFiles else return l

/-! ## What it says for sessions, runs and workers -/

/-- The configuration of every session. -/
def config (l : CommandLine) : Config :=
  let usual := Config.usual
  { usual with
    headless := l.has .headless
    baseUrl := l.baseUrl.getD usual.baseUrl
    timeoutSeconds := l.timeout.getD usual.timeoutSeconds
    defaultOffset := l.defaultOffset.getD usual.defaultOffset
    scrollToElement := l.has .scrollToElement
    focus := l.has .focus
    demo := l.has .demo }

/-- The options of every run. -/
def options (l : CommandLine) : Options :=
  let usual := Options.usual
  { usual with
    errors := l.has .errors
    verbose := 0 < l.verbosity
    unknown := if l.has .strict then .error else usual.unknown
    unresolved := if l.has .strict then .error else usual.unresolved }

/-- The switches that workers are given, too. -/
def workerSwitches : List Switch :=
  [.errors, .headless, .scrollToElement, .focus, .demo, .strict, .quiet]

/-- The arguments of a worker that runs one script in the way that a command line says. -/
def toArguments (l : CommandLine) (file : String) : List String :=
  ["--timeout", Nat.repr l.config.timeoutSeconds,
    "--default-offset=" ++ intText l.config.defaultOffset]
  ++ (match l.baseUrl with
    | some url => ["--base-url", url]
    | none => [])
  ++ (workerSwitches.filter l.has).map (fun s => "--" ++ s.name)
  ++ List.replicate l.verbosity "-v"
  ++ [file]

/-- A note of a level is shown. -/
def shows (l : CommandLine) : Level → Bool
  | .error => true
  | .warn => !l.has .quiet
  | .info => !l.has .quiet && 0 < l.verbosity

end CommandLine

end PageScript
