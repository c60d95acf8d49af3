import PageScript.Browser.Tabs
import PageScript.Session.Waiting

/-!
# Sessions with a browser

The session that a browser in use is.  Elements are found and used by snippets evaluated in the
page, and some are used by requests that take a CSS selector; a selector that is an XPath expression
is only ever given to snippets.  Opening an address puts the hooks into the page again.
-/

namespace PageScript

namespace Use

variable {τ : Type}

/-! ## Evaluating snippets -/

/-- The value of a snippet in the tab in use, read as a kind. -/
def value (link : Link τ) (code : Snippet) (kind : Kind) : Use τ kind.Reading := do
  let tab ← tab
  request link (.evaluate tab code kind)

/-- Evaluates a snippet whose value does not matter. -/
def execute (link : Link τ) (code : Snippet) : Use τ Unit := value link code .nothing

/-- A boolean. -/
def bool? : Value → Option Bool
  | .bool b => some b
  | _ => none

/-- Evaluates an expression of the first element of a selector. -/
def first (link : Link τ) (selector : String) (expression : Snippet) : Use τ Value := do
  let (found, v) ← value link (Snippet.firstElement selector expression) .found
  if found then return v
  else throw (.actionFailed ("element '" ++ selector ++ "' not found"))

/-- Does something with the first element of a selector. -/
def doFirst (link : Link τ) (selector : String) (expression : Snippet) : Use τ Unit := do
  let _ ← first link selector expression

/-! ## Opening addresses -/

/-- Puts the hooks into the page, and for spectators the displays.  A page without hooks is only
suspicious. -/
def afterNavigation (link : Link τ) (config : Config) : Use τ Unit := do
  try execute link [.code Snippet.hooks]
  catch e => note .warn ("Failed to install page hooks: " ++ e.message)
  if config.demo then
    execute link [.code Snippet.cursor]
    execute link [.code Snippet.keys]

/-- Does something that leads to another page. -/
def navigate (link : Link τ) (config : Config) (r : String → Request) : Use τ Unit := do
  let tab ← tab
  let _ ← request link (r tab)
  afterNavigation link config

/-! ## Using elements -/

/-- Scrolls to an element. -/
def scrollTo (link : Link τ) (selector : String) (offset : Int) : Use τ Unit := do
  doFirst link selector (Snippet.scrollTo offset)
  let _ ← tab

/-- Scrolls to an element if sessions of this configuration do so. -/
def approach (link : Link τ) (config : Config) (selector : String) : Use τ Unit := do
  if config.scrollToElement then scrollTo link selector config.defaultOffset

/-- Clicks an element. -/
def click (link : Link τ) (config : Config) (selector : String) : Use τ Unit := do
  approach link config selector
  if Snippet.isXPath selector then doFirst link selector [.code "el.click()"]
  else
    let tab ← tab
    if config.demo then request link (.humanClick tab selector)
    else request link (.click tab selector)

/-- Sets the value of an element, or writes behind the value that it has. -/
def assign (link : Link τ) (selector value : String) (behind : Bool) : Use τ Unit :=
  doFirst link selector (Snippet.assign value behind)

/-- Writes a value into an element. -/
def setValue (link : Link τ) (config : Config) (selector value : String) (w : Writing) :
    Use τ Unit := do
  approach link config selector
  if w.typing || config.demo then
    if w.clear then assign link selector "" false
    doFirst link selector [.code "el.focus()"]
    let tab ← tab
    request link (.typeText tab value)
  else if w.clear && !Snippet.isXPath selector then
    let tab ← tab
    request link (.fill tab selector value)
  else assign link selector value (!w.clear)
  if w.blur then doFirst link selector [.code "el.blur()"]

/-- Sets the value of the element at a position. -/
def setValueAt (link : Link τ) (selector : String) (index : Nat) (text : String) :
    Use τ Unit := do
  let found ← value link (Snippet.assignAt selector index text) .bool
  if !found then
    throw (.actionFailed ("no element " ++ Nat.repr index ++ " for '" ++ selector ++ "'"))

/-- Selects an option of an element. -/
def selectOption (link : Link τ) (selector text : String) : Use τ Unit := do
  match ← first link selector (Snippet.select text) with
  | .text "ok" => return ()
  | .text "option_not_found" =>
    throw (.actionFailed ("option '" ++ text ++ "' not found in '" ++ selector ++ "'"))
  | v => throw (.actionFailed ("select failed: " ++ v.toText))

/-- A coordinate of a point, zero if it has none. -/
def coordinate (name : String) : Value → Double
  | .object fields =>
    match Value.field? name fields with
    | some (.number n) => n.toDouble
    | _ => .zero false
  | _ => .zero false

/-- Moves the mouse to the middle of an element. -/
def moveTo (link : Link τ) (config : Config) (selector : String) : Use τ Unit := do
  approach link config selector
  let centre ← first link selector Snippet.centre
  let tab ← tab
  request link (.moveMouse tab (coordinate "x" centre) (coordinate "y" centre))

/-- Presses a key on an element. -/
def pressKey (link : Link τ) (selector key : String) : Use τ Unit := do
  doFirst link selector [.code "el.focus()"]
  let tab ← tab
  request link (.pressKey tab key)

/-- An attribute of an element. -/
def getAttribute (link : Link τ) (selector name : String) : Use τ (Option String) := do
  match ← first link selector (Snippet.attributeOf name) with
  | .null => return none
  | v => return some v.plainText

/-- Takes the first dialog away, if there is one. -/
def closeAlert (link : Link τ) : Use τ Unit := do
  match ← value link [.code "(window.__wr_alerts || []).shift() ?? null"] .textOrNone with
  | some _ => return ()
  | none => throw (.actionFailed "no alert present")

/-! ## Waiting and pictures -/

/-- Looks whether a condition holds. -/
def check (link : Link τ) (condition : Condition) : Use τ Bool :=
  value link (Snippet.predicate condition) .bool

/-- What comes of waiting until a condition holds, if it comes to an end. -/
def waiting (link : Link τ) (config : Config) (condition : Condition) (timeout : Duration)
    (b : Browsing τ) : Option (Except Error Unit × Browsing τ) :=
  Waiting.wait (check link condition).run.run (link.instant b.far) timeout config.pollInterval
    condition.text b

/-- Waits until a condition holds.  Waiting that does not come to an end has no answer, and is left
as it is behind the first check. -/
def waitFor (link : Link τ) (config : Config) (condition : Condition) (timeout : Duration) :
    Use τ Unit := fun b =>
  match waiting link config condition timeout b with
  | some waited => waited
  | none => (.error link.unanswered, ((check link condition).run.run b).2)

/-- Writes a picture of the page to a file. -/
def screenshot (link : Link τ) (path : String) : Use τ Unit := do
  note .info ("screenshot: " ++ path)
  let tab ← tab
  let picture ← request link (.picture tab)
  match (← get).files.write path picture with
  | .ok files => modify fun b => { b with files }
  | .error f => throw f.error

/-- Opens a window and goes to it. -/
def newWindow (link : Link τ) (config : Config) (url : Option String) : Use τ Unit := do
  openTab link url
  if url.isSome then afterNavigation link config

/-- Ends the session. -/
def stop (link : Link τ) : Use τ Unit := do
  if (← get).alive then note .info "Stopping browser session"
  quit link

/-! ## Calls -/

/-- What a call does. -/
def perform (link : Link τ) (config : Config) : (c : Call) → Use τ c.Reply
  | .stop => stop link
  | .go url => do
    note .info ("Navigating to: " ++ url)
    navigate link config (.navigate · url)
  | .back => navigate link config .back
  | .forward => navigate link config .forward
  | .refresh => navigate link config .reload
  | .currentUrl => do
    let tab ← tab
    request link (.address tab)
  | .title => do
    let tab ← tab
    request link (.title tab)
  | .pageText => do
    let tab ← tab
    request link (.pageText tab)
  | .pageSource => value link [.code "document.documentElement.outerHTML"] .text
  | .count s => value link (Snippet.count s) .nat
  | .getText s => Value.plainText <$> first link s [.code "el.innerText ?? el.textContent ?? ''"]
  | .getTexts s => value link (Snippet.texts s "(el.innerText ?? el.textContent)") .texts
  | .getValue s => Value.plainText <$> first link s [.code "el.value ?? ''"]
  | .getValues s => value link (Snippet.texts s "el.value") .texts
  | .getAttribute s name => getAttribute link s name
  | .isDisplayed s => value link (Snippet.withElements s Snippet.visibleFirst) .bool
  | .isSelected s => do
    let v ← first link s [.code "!!(el.checked || el.selected)"]
    return (bool? v).getD false
  | .click s => click link config s
  | .clickAll s => value link (Snippet.clickAll s) .nat
  | .setValue s v w => setValue link config s v w
  | .setValueAt s i v => setValueAt link s i v
  | .clear s => assign link s "" false
  | .selectOption s text => selectOption link s text
  | .moveTo s => moveTo link config s
  | .pressKey s key => pressKey link s key
  | .scrollTo s offset => scrollTo link s offset
  | .scrollBy x y => execute link (Snippet.scrollBy x y)
  | .executeScript code => (·.getD .null) <$> value link [.code code] .any
  | .waitFor condition timeout => waitFor link config condition timeout
  | .screenshot path => screenshot link path
  | .consoleLog => value link [.code "window.__wr_console || []"] .texts
  | .jsErrors => value link [.code "window.__wr_errors || []"] .texts
  | .windowCount => do
    ensureAlive
    return (← get).tabs.length
  | .switchToWindow index => activate link index
  | .newWindow url => newWindow link config url
  | .closeWindow => closeTab link
  | .alertText => value link [.code "(window.__wr_alerts || [])[0] ?? null"] .textOrNone
  | .acceptAlert => closeAlert link
  | .dismissAlert => closeAlert link
  | .showCursor => execute link [.code Snippet.cursor]
  | .showKeys => execute link [.code Snippet.keys]

end Use

namespace Browsing

/-- The session that a browser in use is. -/
def session {τ : Type} (link : Link τ) (config : Config) : Session (Browsing τ) where
  config := config
  status b := if b.alive then .running else .stopped
  perform c b :=
    let (result, after) := (Use.perform link config c).run.run { b with notes := [] }
    ⟨result, after.notes, { after with notes := [] }⟩

end Browsing

end PageScript
