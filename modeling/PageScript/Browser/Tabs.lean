import PageScript.Browser.Request
import PageScript.Session.Call
import PageScript.Files.Tree

/-!
# Browsers in use

A session with a browser knows the tabs that it has opened, in the order in which it opened them,
and which of them it is in.  When the browser has been quit there are no tabs, and every use of the
browser is refused without asking it anything.
-/

namespace PageScript

/-- A browser in use. -/
structure Browsing (τ : Type) where
  /-- The browser at the other end of the link. -/
  far : τ
  /-- The browser has not been quit. -/
  alive : Bool
  /-- The names of the tabs, oldest first. -/
  tabs : List String
  /-- The position of the tab in use. -/
  current : Nat
  /-- The files to which pictures are written. -/
  files : FileTree
  /-- The notes that have not been passed on. -/
  notes : List (Level × String)

/-- A use of a browser; a failure leaves what was done before. -/
abbrev Use (τ α : Type) := ExceptT Error (StateM (Browsing τ)) α

namespace Use

variable {τ : Type}

/-- Makes a note. -/
def note (level : Level) (text : String) : Use τ Unit :=
  modify fun b => { b with notes := b.notes ++ [(level, text)] }

/-- Asks the browser for something. -/
def request (link : Link τ) (r : Request) : Use τ r.Answer := fun b =>
  let (answer, far) := link.ask r b.far
  (answer, { b with far })

/-- Refuses when the browser has been quit. -/
def ensureAlive : Use τ Unit := do
  if !(← get).alive then throw .sessionStopped

/-- The tab in use. -/
def tab : Use τ String := do
  ensureAlive
  let b ← get
  match b.tabs[b.current]? with
  | some tab => return tab
  | none => throw (.actionFailed "no open window")

/-! ## Tabs -/

/-- Goes to the tab at a position. -/
def activate (link : Link τ) (index : Nat) : Use τ Unit := do
  let b ← get
  match b.tabs[index]? with
  | none => throw (.argument ("window " ++ Nat.repr index ++ " out of range ("
      ++ Nat.repr b.tabs.length ++ " open)"))
  | some tab =>
    ensureAlive
    request link (.activate tab)
    modify fun b => { b with current := index }

/-- Brings the window of the tab in use to the front. -/
def focusWindow (link : Link τ) : Use τ Unit := do
  let tab ← tab
  request link (.activate tab)

/-- Opens a tab and goes to it. -/
def openTab (link : Link τ) (url : Option String) : Use τ Unit := do
  ensureAlive
  let tab ← request link (.newTab url)
  modify fun b => { b with tabs := b.tabs ++ [tab] }
  activate link ((← get).tabs.length - 1)

/-- Closes the tab in use, if it is not the only one, and goes to the one behind it or else to the
last one. -/
def closeTab (link : Link τ) : Use τ Unit := do
  if (← get).tabs.length ≤ 1 then throw (.actionFailed "cannot close the last window")
  let tab ← tab
  request link (.closeTab tab)
  modify fun b => { b with tabs := b.tabs.eraseIdx b.current }
  let b ← get
  activate link (min b.current (b.tabs.length - 1))

/-- Quits the browser, if that has not been done. -/
def quit (link : Link τ) : Use τ Unit := do
  let alive := (← get).alive
  modify fun b => { b with alive := false, tabs := [] }
  if alive then request link .quit

end Use

namespace Browsing

/-- Launches a browser with one blank tab. -/
def launch {τ : Type} (link : Link τ) (config : Config) (files : FileTree) (far : τ) :
    Except Error (Browsing τ) × τ :=
  match link.ask (.launch (.ofConfig config)) far with
  | (.error e, far) => (.error e, far)
  | (.ok (), far) =>
    match link.ask (.newTab (some "about:blank")) far with
    | (.error e, far) => (.error e, far)
    | (.ok tab, far) =>
      let b : Browsing τ := ⟨far, true, [tab], 0, files, []⟩
      if config.focus then
        match (Use.focusWindow link).run.run b with
        | (.error e, b) => (.error e, b.far)
        | (.ok (), b) => (.ok b, b.far)
      else (.ok b, b.far)

end Browsing

end PageScript
