import PageScript.Operation.Action
import PageScript.Snippet.Query
import PageScript.Surroundings

/-!
# Performing operations

An operation acts on a world: the state of a session and the surroundings.  It acts by calls to the
session, whose notes go to the output.  An operation that uses the session refuses a stopped one
before it looks at its arguments.
-/

namespace PageScript

/-- What operations act on. -/
structure World (σ : Type) where
  session : σ
  outside : Surroundings

/-- A doing that may fail; what was done stays done. -/
abbrev Doing (σ α : Type) := ExceptT Error (StateM (World σ)) α

namespace Doing

/-- An action on the surroundings alone. -/
def outside {σ α : Type} (action : Taking α) : Doing σ α := fun w =>
  let (x, after) := action w.outside
  (.ok x, { w with outside := after })

/-- Makes a note. -/
def note {σ : Type} (level : Level) (text : String) : Doing σ Unit :=
  outside (Surroundings.note level text)

/-- Makes notes in order. -/
def notes : List (Level × String) → Taking Unit
  | [] => pure ()
  | (level, text) :: rest => do
    Surroundings.note level text
    notes rest

/-- A call to the session. -/
def call {σ : Type} (s : Session σ) (c : Call) : Doing σ c.Reply := fun w =>
  let outcome := s.perform c w.session
  (outcome.result, ⟨outcome.after, (notes outcome.notes w.outside).2⟩)

/-- Calls in order, up to the first that fails. -/
def callAll {σ : Type} (s : Session σ) : List Call → Doing σ Unit
  | [] => return ()
  | c :: cs => do
    let _ ← call s c
    callAll s cs

/-- Whether the session can be used. -/
def status {σ : Type} (s : Session σ) : Doing σ Status := do
  return s.status (← get).session

end Doing

namespace Action

open Doing

/-- Sets the elements of a selector to the given characters, from a position on. -/
def spreadFrom {σ : Type} (s : Session σ) (selector : String) : Nat → List Char → Doing σ Unit
  | _, [] => return ()
  | i, c :: cs => do
    let _ ← call s (.setValueAt selector i (String.singleton c))
    spreadFrom s selector (i + 1) cs

/-- The moment as the name of a picture holds it. -/
def stamp (now : Moment) : String :=
  (TimeFormat.text? "%Y-%m-%d_%H-%M-%S" now).getD ""

/-- Waits for the condition on a selector that a reader gives, if it gives one. -/
def waitIf {σ : Type} (s : Session σ) (condition : String → Condition) :
    Except Error (Option String) → Doing σ Unit
  | .error e => throw e
  | .ok none => return ()
  | .ok (some selector) => call s (.waitFor (condition selector) s.config.timeout)

/-- Judges what a replaced control said to a new text. -/
def judgeControl (selector text : String) : Value → Except Error Unit
  | .text "ok" => .ok ()
  | .text "option_not_found" =>
    .error (.actionFailed ("option '" ++ text ++ "' not found in '" ++ selector ++ "'"))
  | _ => .error (.actionFailed ("'" ++ selector ++ "' is not a selectize control"))

/-- Asks the question of an assertion and judges the reply. -/
def check {σ : Type} (s : Session σ) (a : Assertion) : Doing σ Unit := do
  callAll s a.first.toList
  let reply ← call s a.question
  match a.complaint? reply with
  | none => return ()
  | some text => throw (.assertionFailed text)

/-- Does an action. -/
def perform {σ : Type} (s : Session σ) : Action → Doing σ Unit
  | .calls cs => callAll s cs
  | .visit url visible presence => do
    call s (.go url)
    waitIf s .visible visible
    waitIf s .presence presence
  | .setControl selector text => do
    callAll s [settle s.config selector]
    let answer ← call s (.executeScript (Snippet.setControl selector text))
    match judgeControl selector text answer with
    | .ok () => return ()
    | .error e => throw e
  | .spread selector code => do
    callAll s [settle s.config selector]
    let fields ← call s (.count selector)
    if fields < code.length then
      throw (.argument ("fill_otp: " ++ Nat.repr code.length ++ " characters but only "
        ++ Nat.repr fields ++ " inputs match '" ++ selector ++ "'"))
    spreadFrom s selector 0 code.toList
  | .pause d => outside (Surroundings.passTime d)
  | .picture template => do
    let now ← outside Surroundings.look
    call s (.screenshot (Text.replace "\x7btimestamp\x7d" (stamp now) template))
  | .showLog => do
    let lines ← call s .consoleLog
    outside (notes (lines.map fun line => (.info, "[console] " ++ line)))
  | .say text => note .info ("[log] " ++ text)
  | .closeAlert => do
    let text ← call s .alertText
    if text.isSome then call s .dismissAlert
  | .assert a => check s a

end Action

namespace Operation

open Doing

/-- Performs an operation. -/
def perform {σ : Type} (s : Session σ) (op : Operation) (args : Arguments) : Doing σ Unit := do
  if op.needsSession && (← status s) = .stopped then throw .sessionStopped
  match Action.ofOperation s.config op args with
  | .error e => throw e
  | .ok action => action.perform s

end Operation

end PageScript
