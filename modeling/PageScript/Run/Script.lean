import PageScript.Run.Commands

/-!
# Running scripts

A run of a script begins with the usual imports and with nothing recorded.  It ends with a report,
or, where the options say that the first failure ends a run, with that failure.
-/

namespace PageScript

/-- What a run that came to its end tells. -/
structure Report where
  executed : Nat
  /-- The commands that failed, in order. -/
  failures : List Failure
  names : Namespace

/-- No command failed. -/
def Report.success (r : Report) : Bool := r.failures.isEmpty

/-- How the last run ended. -/
inductive Phase where
  /-- It came to its end, or there was none. -/
  | idle
  | aborted
deriving DecidableEq, Repr

/-- How a run ended, and what it left. -/
structure Ending (σ : Type) where
  /-- The report, or the failure that ended the run. -/
  result : Except Error Report
  phase : Phase
  world : World σ

namespace Setup

variable {σ : Type}

/-- A run that has not begun. -/
def start (setup : Setup σ) (world : World σ) : Progress σ :=
  ⟨world, Importing.withUsual setup.registry .empty, 0, 0, []⟩

/-- Runs a script. -/
def run (setup : Setup σ) (script : Script) (world : World σ) : Ending σ :=
  let (result, p) := (setup.runWithin maxIncludeDepth script.directory script.commands).run.run
    (setup.start world)
  match result with
  | .ok () => ⟨.ok ⟨p.executed, p.failures, p.names⟩, .idle, p.world⟩
  | .error e => ⟨.error e, .aborted, p.world⟩

/-- Reads a script from a file and runs it.  If it cannot be read, there is no run. -/
def runFile (setup : Setup σ) (path : String) (phase : Phase) (world : World σ) : Ending σ :=
  let (loaded, warnings) := Script.load setup.files path
  let outside := ((Doing.notes (warnings.map (.warn, ·))).run world.outside).2
  let world := { world with outside }
  match loaded with
  | .ok script => setup.run script world
  | .error e => ⟨.error e, phase, world⟩

end Setup

end PageScript
