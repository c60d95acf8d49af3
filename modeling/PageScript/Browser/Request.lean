import PageScript.Snippet.Query
import PageScript.Session.Config
import PageScript.Value.Basic

/-!
# Requests to a browser

A browser is a program of its own that is asked to do things, and that has tabs, each with a name
that the browser gave it.  Every request has a kind of answer.  What is at the other end stays open:
`Link τ` is a state of any type together with what requests do to it, and any request may fail.

Code that is evaluated in a page has a value, and who asks for it says what kind of value it is to
be read as.  How a value is read, and that it cannot be, is a matter of the other end.

A selector goes into some requests as it is; the browser takes it for CSS there.  In a snippet it is
only a given text.
-/

namespace PageScript

/-- How a browser is to be launched. -/
structure Launch where
  headless : Bool
  proxy : Option String
  /-- The name that it gives itself. -/
  userAgent : Option String
  viewport : Viewport
deriving DecidableEq, Repr

/-- The launch that a configuration asks for. -/
def Launch.ofConfig (c : Config) : Launch :=
  ⟨c.headless, c.proxy, c.userAgent, c.viewport.getD ⟨1280, 720⟩⟩

/-- What the value of evaluated code is read as. -/
inductive Kind where
  /-- The value does not matter. -/
  | nothing
  | bool
  | nat
  | text
  | texts
  /-- A text or nothing. -/
  | textOrNone
  /-- Whether an element was found, and a value of it. -/
  | found
  /-- Any value or nothing. -/
  | any
deriving DecidableEq, Repr

/-- What is read as a kind. -/
abbrev Kind.Reading : Kind → Type
  | .nothing => Unit
  | .bool => Bool
  | .nat => Nat
  | .text => String
  | .texts => List String
  | .textOrNone => Option String
  | .found => Bool × Value
  | .any => Option Value

/-- Something that a browser is asked to do. -/
inductive Request where
  | launch (how : Launch)
  /-- Open a tab, with an address or blank; the answer is its name. -/
  | newTab (url : Option String)
  /-- Bring a tab to the front. -/
  | activate (tab : String)
  | closeTab (tab : String)
  | quit
  /-- Evaluate a snippet in a tab; the answer is its value, read as a kind. -/
  | evaluate (tab : String) (code : Snippet) (kind : Kind)
  /-- Open an address in a tab. -/
  | navigate (tab url : String)
  /-- Go back in the history of a tab. -/
  | back (tab : String)
  /-- Go forward in the history of a tab. -/
  | forward (tab : String)
  | reload (tab : String)
  | address (tab : String)
  | title (tab : String)
  | pageText (tab : String)
  | picture (tab : String)
  /-- Click the element of a CSS selector. -/
  | click (tab selector : String)
  /-- Click the element of a CSS selector as a person would. -/
  | humanClick (tab selector : String)
  /-- Empty the element of a CSS selector and type a value. -/
  | fill (tab selector value : String)
  /-- Type a text where the focus is. -/
  | typeText (tab text : String)
  /-- Press a key where the focus is. -/
  | pressKey (tab key : String)
  /-- Move the mouse to a point. -/
  | moveMouse (tab : String) (x y : Double)
deriving DecidableEq, Repr

/-- What a request is answered with. -/
abbrev Request.Answer : Request → Type
  | .newTab _ | .address _ | .title _ | .pageText _ | .picture _ => String
  | .evaluate _ _ kind => kind.Reading
  | _ => Unit

/-- A browser at the other end, with states of type `τ`. -/
structure Link (τ : Type) where
  ask : (r : Request) → τ → Except Error r.Answer × τ
  /-- What the steady clock of the machine shows, in nanoseconds. -/
  instant : τ → Nat
  /-- What stands in the place of the answer where there never is one. -/
  unanswered : Error

/-- A link whose state also keeps the requests made so far, oldest first. -/
def Link.traced {τ : Type} (link : Link τ) : Link (τ × List Request) where
  ask r state :=
    let (answer, after) := link.ask r state.1
    (answer, after, state.2 ++ [r])
  instant state := link.instant state.1
  unanswered := link.unanswered

/-- A link with nothing at the other end: no browser can be launched, and so nothing is answered. -/
def Link.broken (fault : Error) : Link Unit where
  ask _ state := (.error fault, state)
  instant _ := 0
  unanswered := fault

end PageScript
