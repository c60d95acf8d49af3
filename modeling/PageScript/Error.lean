/-!
# Errors

What can go wrong, by kind.  Every kind carries the text that explains the case, except a stopped
session, which needs none.  `Error.message` is the full text that reports show.
-/

namespace PageScript

/-- A failure of the program. -/
inductive Error where
  | script (text : String)
  /-- A literal or an expression is malformed. -/
  | expression (text : String)
  | lookup (text : String)
  /-- An argument is missing or unfit. -/
  | argument (text : String)
  | unknownCommand (name : String)
  /-- A YAML document is malformed or no script. -/
  | yaml (text : String)
  /-- A JSON document is malformed or no script. -/
  | json (text : String)
  /-- A file or a stream cannot be used. -/
  | io (text : String)
  | browser (text : String)
  | sessionStopped
  /-- An action on the page failed. -/
  | actionFailed (text : String)
  /-- A condition did not hold in time. -/
  | timeout (text : String)
  | assertionFailed (text : String)
deriving DecidableEq, Repr

/-- The text of an error in reports. -/
def Error.message : Error → String
  | .script t => "script error: " ++ t
  | .expression t => "expression error: " ++ t
  | .lookup t => "lookup error: " ++ t
  | .argument t => "argument error: " ++ t
  | .unknownCommand t => "unknown command: " ++ t
  | .yaml t => "yaml parse error: " ++ t
  | .json t => "json parse error: " ++ t
  | .io t => "io error: " ++ t
  | .browser t => "browser error: " ++ t
  | .sessionStopped => "session already stopped"
  | .actionFailed t => "action failed: " ++ t
  | .timeout t => "timeout: " ++ t
  | .assertionFailed t => "assertion failed: " ++ t

/-- Two steps that may fail give a result if the first gives one and the second does from there. -/
theorem bind_eq_ok {ε α β : Type} {x : Except ε α} {f : α → Except ε β} {b : β}
    (h : x >>= f = .ok b) : ∃ a, x = .ok a ∧ f a = .ok b := by
  cases x with
  | error e => cases h
  | ok a => exact ⟨a, rfl, h⟩

end PageScript
