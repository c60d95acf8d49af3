import PageScript.Value.Basic
import PageScript.Time.Format
import PageScript.Error
import PageScript.Output

/-!
# Surroundings

What a program takes from outside while it runs: chance, the time, environment variables and typed
lines.  What it puts out on the way is kept there until it is collected.  Everything is a value, so
a run is determined by the surroundings that it starts in.

Chance is an infinite sequence of natural numbers, of which every draw takes the next one.  The time
is known as far as the program has let it pass: every look at the clock finds the next of a sequence
of moments, but none that is earlier than it must be by then.
-/

namespace PageScript

/-- Chance: a sequence of numbers and how many of them are used up. -/
structure Entropy where
  source : Nat → Nat
  used : Nat

/-- The surroundings of a run. -/
structure Surroundings where
  entropy : Entropy
  /-- The time that it is at least. -/
  now : Moment
  /-- The moments that the next looks at the clock find, if they are not over by then. -/
  clock : Nat → Moment
  environment : List (String × String)
  /-- What is left of the typed bytes. -/
  input : List UInt8
  /-- What was put out and not yet collected, oldest first. -/
  output : List Output

/-- An action that takes something from the surroundings. -/
abbrev Taking (α : Type) := StateM Surroundings α

/-- An action on the surroundings that may fail; what it took stays taken. -/
abbrev Attempt (α : Type) := ExceptT Error (StateM Surroundings) α

namespace Surroundings

/-- Surroundings in which every draw gives zero, the clock stands still and nothing is to be had. -/
def still : Surroundings := ⟨⟨fun _ => 0, 0⟩, 0, fun _ => 0, [], [], []⟩

/-- A number below a bound, zero when the bound is zero. -/
def draw (bound : Nat) : Taking Nat := fun s =>
  (s.entropy.source s.entropy.used % bound,
    { s with entropy := { s.entropy with used := s.entropy.used + 1 } })

/-- A binary64 number from zero up to but not including one, on a grid of `2 ^ 53` steps. -/
def drawUnit : Taking Double := do
  let n ← draw (Nat.pow 2 53)
  pure (.round false n (Nat.pow 2 53))

/-- An item of a list; none if the list is empty. -/
def pick? {α : Type} (items : List α) : Taking (Option α) := do
  let n ← draw items.length
  pure items[n]?

/-- An item of a list, or a default if the list is empty. -/
def pickOr {α : Type} (default : α) (items : List α) : Taking α := do
  pure ((← pick? items).getD default)

/-- As many draws as asked for. -/
def times {α : Type} (action : Taking α) : Nat → Taking (List α)
  | 0 => pure []
  | n + 1 => do
    let x ← action
    let xs ← times action n
    pure (x :: xs)

/-- The items of a list in a drawn order, but no more than asked for.  Each is drawn from those
that are left. -/
def drawItems {α : Type} : Nat → List α → Taking (List α)
  | 0, _ => pure []
  | _ + 1, [] => pure []
  | n + 1, x :: xs => do
    let k ← draw (xs.length + 1)
    let rest ← drawItems n ((x :: xs).eraseIdx k)
    pure (((x :: xs)[k]?).getD x :: rest)

/-- Puts out one more piece. -/
def putOut (o : Output) : Taking Unit := fun s => ((), { s with output := s.output ++ [o] })

/-- Prints a text. -/
def print (text : String) : Taking Unit := putOut (.text text)

/-- Makes a note. -/
def note (level : Level) (text : String) : Taking Unit := putOut (.note level text)

/-- Lets time pass. -/
def passTime (ns : Nat) : Taking Unit := fun s => ((), { s with now := s.now + ns })

/-- Looks at the clock. -/
def look : Taking Moment := fun s =>
  let now := max s.now (s.clock 0)
  (now, { s with now, clock := fun n => s.clock (n + 1) })

/-- Rests for less than a second. -/
def rest : Taking Unit := do
  let ms ← draw 1000
  passTime (ms * Nat.pow 10 6)

/-- The value of an environment variable, if it is set. -/
def fromEnvironment (name : String) : Taking (Option String) := fun s =>
  (s.environment.lookup name, s)

/-- Takes the typed bytes up to the end of the line and with it. -/
def takeLine : Taking (List UInt8) := fun s =>
  let line := s.input.takeWhile (· ≠ 10)
  let rest := s.input.dropWhile (· ≠ 10)
  (line ++ rest.take 1, { s with input := rest.drop 1 })

end Surroundings

end PageScript
