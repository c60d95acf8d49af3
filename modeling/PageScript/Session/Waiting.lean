import PageScript.Arguments
import PageScript.Error

/-!
# Waiting

Waiting means checking a condition again and again, with a pause of a fixed length after every check
that does not find it, until the time allowed is over.  The time is looked at after a check, so
there is always at least one.  A check that fails counts as a check that finds nothing, and the last
failure is told when the time is over.

The time passed is the time spent in pauses: a check takes none.

A steady clock ends somewhere.  If the time allowed goes beyond its end there is no deadline, and it
is checked until the condition holds, be it for ever.  So waiting gives an outcome or none.
-/

namespace PageScript

namespace Duration

/-- The digits of a fraction of `10 ^ places`, without the zeros at their end. -/
def fractionDigits (places n : Nat) : List Char :=
  let digits := Nat.toDigits 10 n
  Text.dropRightWhile (· = '0') (List.replicate (places - digits.length) '0' ++ digits)

/-- A whole part and a fraction of a unit. -/
def inUnit (places : Nat) (d : Duration) (unit : String) : String :=
  let fraction := fractionDigits places (d % Nat.pow 10 places)
  Nat.repr (d / Nat.pow 10 places)
    ++ (if fraction.isEmpty then "" else "." ++ String.ofList fraction) ++ unit

/-- The text of a span of time, in the largest unit of which it has at least one. -/
def text (d : Duration) : String :=
  if d < Nat.pow 10 3 then inUnit 0 d "ns"
  else if d < Nat.pow 10 6 then inUnit 3 d "µs"
  else if d < Nat.pow 10 9 then inUnit 6 d "ms"
  else inUnit 9 d "s"

example : text 0 = "0ns" ∧ text 1500 = "1.5µs" ∧ text 20000000 = "20ms" := by decide +kernel
example : text 1234567 = "1.234567ms" ∧ text 30000000000 = "30s" := by decide +kernel

end Duration

namespace Waiting

/-- The failure of waiting in vain. -/
def inVain (timeout : Duration) (what : String) (last : Option Error) : Error :=
  .timeout ("waited " ++ Duration.text timeout ++ " for " ++ what ++
    match last with
    | some e => " (last error: " ++ e.message ++ ")"
    | none => "")

/-- The last instant of a steady clock, in nanoseconds: it counts seconds in 64 bits with a sign. -/
def lastInstant : Nat := Nat.pow 2 63 * Nat.pow 10 9 - 1

/-- Waiting that begins at an instant has a deadline. -/
def hasDeadline (began timeout : Nat) : Bool := began + timeout ≤ lastInstant

variable {σ : Type}

/-- Checks until the condition holds or the time is over.  Times are in nanoseconds, and a pause is
at least one of them long. -/
def poll (check : σ → Except Error Bool × σ) (timeout interval : Nat)
    (what : String) (passed : Nat) (last : Option Error) (s : σ) : Except Error Unit × σ :=
  match check s with
  | (.ok true, s) => (.ok (), s)
  | (.ok false, s) =>
    if timeout ≤ passed then (.error (inVain timeout what last), s)
    else poll check timeout interval what (passed + max interval 1) last s
  | (.error e, s) =>
    if timeout ≤ passed then (.error (inVain timeout what (some e)), s)
    else poll check timeout interval what (passed + max interval 1) (some e) s
termination_by timeout - passed

/-- Checks until the condition holds. -/
def pollForever (check : σ → Except Error Bool × σ) (s : σ) : Option σ :=
  match check s with
  | (.ok true, s) => some s
  -- the check stays the same, and goes on from the state behind it
  | (.ok false, s) | (.error _, s) => (pollForever (s := s)) check
partial_fixpoint

/-- Waits from an instant on. -/
def wait (check : σ → Except Error Bool × σ) (began timeout interval : Nat)
    (what : String) (s : σ) : Option (Except Error Unit × σ) :=
  if hasDeadline began timeout then some (poll check timeout interval what 0 none s)
  else (pollForever check s).map fun s => (.ok (), s)

end Waiting

end PageScript
