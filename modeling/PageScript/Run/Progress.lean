import PageScript.Operation.Performing
import PageScript.Expression.Importing
import PageScript.Script.Reading

/-!
# Runs and their progress

A run goes through the commands of a script.  It is set up with a session, modules to import from, a
source of synthetic data, files to include, and options that say what to do when something goes
wrong.  While it goes on it knows what has been imported and recorded, how many commands it has met,
how many of them were done, and which failed.
-/

namespace PageScript

/-- What to do with a command that names no operation. -/
inductive UnknownPolicy where
  | ignore
  /-- It is passed over with a warning. -/
  | warn
  | error
deriving DecidableEq, Repr

/-- What a run does when something goes wrong, and how much it tells. -/
structure Options where
  /-- The first failure ends the run. -/
  errors : Bool
  /-- Every command is told before it is done. -/
  verbose : Bool
  stopOnFailure : Bool
  /-- What to do with a command that names no operation. -/
  unknown : UnknownPolicy
  /-- What to do with an expression without meaning. -/
  unresolved : Unresolved
deriving DecidableEq, Repr

/-- Failures are collected and stop the session. -/
def Options.usual : Options := ⟨false, false, true, .warn, .empty⟩

/-- A command that failed. -/
structure Failure where
  /-- Its place among the commands that the run has met, from one. -/
  index : Nat
  /-- The command as reports show it. -/
  command : String
  error : String
deriving DecidableEq, Repr

/-- What a run is set up with. -/
structure Setup (σ : Type) where
  session : Session σ
  registry : Registry
  fake : FakeSource
  /-- What to do when something goes wrong. -/
  options : Options
  files : FileTree

/-- How far a run has come. -/
structure Progress (σ : Type) where
  world : World σ
  /-- What has been imported and recorded. -/
  names : Namespace
  index : Nat
  executed : Nat
  /-- The commands that failed, in order. -/
  failures : List Failure

/-- A part of a run; a failure ends the run or is caught on the way. -/
abbrev Running (σ α : Type) := ExceptT Error (StateM (Progress σ)) α

namespace Running

variable {σ α : Type}

/-- An action on the session and the surroundings. -/
def doing (action : Doing σ α) : Running σ α := fun p =>
  let (result, world) := action p.world
  (result, { p with world })

/-- An action on the surroundings alone. -/
def outside (action : Taking α) : Running σ α := doing (Doing.outside action)

/-- Makes a note. -/
def note (level : Level) (text : String) : Running σ Unit :=
  outside (Surroundings.note level text)

/-- An action on what is imported and recorded, and on the surroundings. -/
def resolving (action : Resolving α) : Running σ α := fun p =>
  let (result, scope) := action ⟨p.names, p.world.outside⟩
  (result, { p with names := scope.names, world := { p.world with outside := scope.outside } })

/-- Whether the session can be used. -/
def status (s : Session σ) : Running σ Status := doing (Doing.status s)

/-- An outcome as a part of a run. -/
def ofExcept : Except Error α → Running σ α
  | .ok x => return x
  | .error e => throw e

/-- An action whose failure is an outcome like any other. -/
def attempt (action : Running σ α) : Running σ (Except Error α) := fun p =>
  let (result, after) := action p
  (.ok result, after)

end Running

end PageScript
