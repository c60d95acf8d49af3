import PageScript.Operation.Assertion
import PageScript.Operation.Basic

/-!
# Actions

An action is an operation with its arguments read.  All arguments are read before anything is done,
so an operation whose arguments are unfit does nothing.  The one exception is opening an address and
waiting for elements on it: what to wait for is read when the address has been opened.
-/

namespace PageScript

/-- What an operation does. -/
inductive Action where
  /-- Calls one after another; the replies do not matter. -/
  | calls (cs : List Call)
  /-- Opens an address, then waits for a visible element and for a present one. -/
  | visit (url : String) (visible presence : Except Error (Option String))
  /-- Selects an option of a control that has taken the place of a select element. -/
  | setControl (selector text : String)
  /-- Spreads the characters of a code over the elements of a selector. -/
  | spread (selector code : String)
  | pause (d : Duration)
  /-- Writes a picture of the page to a file whose name may hold the time. -/
  | picture (template : String)
  | showLog
  | say (text : String)
  /-- Dismisses a dialog if there is one. -/
  | closeAlert
  | assert (a : Assertion)

namespace Action

/-! ## Reading arguments -/

/-- The name of a key for the page.  Some keys have names of their own in scripts. -/
def keyName (key : String) : String :=
  match String.ofList (Text.asciiUpper key.toList) with
  | "ENTER" | "RETURN" => "Enter"
  | "TAB" => "Tab"
  | "ESCAPE" | "ESC" => "Escape"
  | "SPACE" => " "
  | "BACKSPACE" | "BACK_SPACE" => "Backspace"
  | "DELETE" => "Delete"
  | "UP" | "ARROW_UP" => "ArrowUp"
  | "DOWN" | "ARROW_DOWN" => "ArrowDown"
  | "LEFT" | "ARROW_LEFT" => "ArrowLeft"
  | "RIGHT" | "ARROW_RIGHT" => "ArrowRight"
  | "HOME" => "Home"
  | "END" => "End"
  | "PAGE_UP" => "PageUp"
  | "PAGE_DOWN" => "PageDown"
  | _ => key

/-- The selectors and values of one row: a pair, or an object from selectors to values. -/
def row? : Value → Option (List (String × String))
  | .object fields => fields.mapM fun (selector, v) => v.scalarText.map (selector, ·)
  | .list [selector, v] => do return [(← selector.scalarText, ← v.scalarText)]
  | _ => none

/-- The selectors and values of all rows, in order.  A list that is the only value holds the
rows. -/
def rows (args : Arguments) : Except Error (List (String × String)) :=
  let unfit (row : Value) : Error := .argument
    (args.op ++ ": expected [selector, value] or \x7bselector: value\x7d, got " ++ row.toText)
  let values := match args.values with
    | [.list rows] => rows
    | values => values
  let read (row : Value) : Except Error (List (String × String)) :=
    match row? row with
    | some pairs => .ok pairs
    | none => .error (unfit row)
  (values.mapM read).map List.flatten

/-- The distances to scroll by. -/
def scrolling (args : Arguments) : Except Error (Int × Int) := do
  let amount ← args.int 0 "amount"
  let direction := (← args.text? 1 "direction").getD "down"
  let negated : Except Error Int :=
    if amount = Reading.int64Min then
      .error (.argument ("scroll_browser: amount " ++ intText amount ++ " out of range"))
    else .ok (-amount)
  match direction with
  | "down" => return (0, amount)
  | "up" => return (0, ← negated)
  | "right" => return (amount, 0)
  | "left" => return (← negated, 0)
  | other => throw (.argument ("scroll_browser: unknown direction '" ++ other ++ "'"))

/-- The span of time to wait. -/
def span (args : Arguments) : Except Error Duration := do
  let seconds ← args.double 0 "seconds"
  match Duration.ofDouble? seconds with
  | some d => return d
  | none => throw (.argument ("wait: invalid duration " ++ Layout.plain.text seconds))

/-- Waiting for the element of a selector to be there. -/
def settle (config : Config) (selector : String) : Call :=
  .waitFor (.presence selector) config.timeout

/-- Waiting for the element of a selector, in the way that an argument says. -/
def settleAs (config : Config) (selector : String) (way : Option String) : Except Error Call :=
  match way with
  | some "visible" => .ok (.waitFor (.visible selector) config.timeout)
  | none | some "presence" => .ok (settle config selector)
  | some other => .error (.argument
      ("wait_for must be 'presence' or 'visible', got '" ++ other ++ "'"))

/-- A selector alone. -/
def selector (args : Arguments) : Except Error String := args.text 0 "selector"

/-- Waiting for an element, then a call about it. -/
def settled (config : Config) (args : Arguments) (call : String → Except Error Call) :
    Except Error Action := do
  let s ← selector args
  let c ← call s
  return .calls [settle config s, c]

/-- Waiting for a condition; the time allowed is the argument at a position. -/
def waiting (config : Config) (args : Arguments) (timeoutAt : Nat)
    (condition : Except Error Condition) : Except Error Action := do
  let c ← condition
  let d ← args.timeout timeoutAt config.timeout
  return .calls [.waitFor c d]

/-- An assertion about an element and a text, after waiting for the element. -/
def asserting (config : Config) (args : Arguments) (name : String)
    (assertion : Call → String → String → Assertion) : Except Error Action := do
  let s ← selector args
  let expected ← args.text 1 name
  let way ← args.text? 2 "wait_for"
  let first ← settleAs config s way
  return .assert (assertion first s expected)

/-- An assertion that an element is visible, or not. -/
def assertingVisible (config : Config) (args : Arguments) (wanted : Bool) :
    Except Error Action := do
  let s ← selector args
  let d ← args.timeout 1 config.timeout
  return .assert (.visible (.waitFor (.presence s) d) s wanted)

/-- Writing every row into its element. -/
def filling (config : Config) (args : Arguments) (clear : Bool) : Except Error Action := do
  let pairs ← rows args
  return .calls (pairs.flatMap fun (s, v) =>
    [settle config s, .setValue s v { Writing.usual with clear }])

/-- The file of a picture when none is named. -/
def usualPicture : String := "/tmp/webrunner-screenshot.png"

/-! ## Operations as actions -/

/-- What an operation does with its arguments. -/
def ofOperation (config : Config) (op : Operation) (args : Arguments) : Except Error Action :=
  match op with
  | .go => do return .calls [.go (← args.text 0 "url")]
  | .goto => do
    let url ← args.text 0 "url"
    return .visit (config.resolveUrl url) (args.text? 1 "wait_for_visible")
      (args.text? 2 "wait_for_presence")
  | .back => return .calls [.back]
  | .forward => return .calls [.forward]
  | .refreshPage => return .calls [.refresh]
  | .click => settled config args fun s => return .click s
  | .clickAll => do return .calls [.clickAll (← selector args)]
  | .setValue => settled config args fun s => do
    let value ← args.text 1 "value"
    let clear ← args.boolOr 2 "clear" Writing.usual.clear
    let blur ← args.boolOr 3 "blur" Writing.usual.blur
    let typing ← args.boolOr 4 "typing" Writing.usual.typing
    return .setValue s value ⟨clear, blur, typing⟩
  | .setValues => filling config args true
  | .fill => filling config args false
  | .clear => settled config args fun s => return .clear s
  | .setSelectByText => settled config args fun s => do
    return .selectOption s (← args.text 1 "text")
  | .setSelectize => do
    let s ← selector args
    return .setControl s (← args.text 1 "text")
  | .fillOtp => do
    let s ← selector args
    return .spread s (← args.text 1 "code")
  | .moveTo => settled config args fun s => return .moveTo s
  | .hover => settled config args fun s => return .moveTo s
  | .sendKey => settled config args fun s => do
    return .pressKey s (keyName (← args.text 1 "key"))
  | .scrollToElement => settled config args fun s => do
    return .scrollTo s ((← args.int? 1 "offset").getD config.defaultOffset)
  | .scrollBrowser => do
    let (x, y) ← scrolling args
    return .calls [.scrollBy x y]
  | .js => do return .calls [.executeScript (← args.text 0 "script")]
  | .wait => do return .pause (← span args)
  | .waitForPresence => waiting config args 1 (.presence <$> selector args)
  | .waitForVisible => waiting config args 1 (.visible <$> selector args)
  | .waitForInvisible => waiting config args 1 (.invisible <$> selector args)
  | .waitForClickable => waiting config args 1 (.clickable <$> selector args)
  | .waitForKo => waiting config args 1 (.absence <$> selector args)
  | .waitForText => waiting config args 2 do
    return .textIn (← selector args) (← args.text 1 "text")
  | .waitForTextInValue => waiting config args 2 do
    return .value (← selector args) (← args.text 1 "value") false
  | .waitForValue => waiting config args 2 do
    return .value (← selector args) (← args.text 1 "value") true
  | .waitForTitle => waiting config args 1 (.title <$> args.text 0 "title")
  | .waitForUrl => waiting config args 1 (.url <$> args.text 0 "url")
  | .waitForOpacity => waiting config args 2 do
    return .opacity (← selector args) (← args.double 1 "value")
  | .waitForAlert => waiting config args 0 (.ok .alert)
  | .screenshot => do return .picture ((← args.text? 0 "path").getD usualPicture)
  | .showCursor => return .calls [.showCursor]
  | .showKeys => return .calls [.showKeys]
  | .getLog => return .showLog
  | .log => return .say (Text.join " " (args.values.map fun v => v.scalarText.getD v.toText))
  | .switchToWindow => do return .calls [.switchToWindow (← args.nat 0 "index")]
  | .newWindow => do return .calls [.newWindow ((← args.text? 0 "url").map config.resolveUrl)]
  | .closeWindow => return .calls [.closeWindow]
  | .acceptAlert => return .calls [.acceptAlert]
  | .dismissAlert => return .calls [.dismissAlert]
  | .closeAlert => return .closeAlert
  | .assertExists => do return .assert (.found (← selector args) true)
  | .assertFound => do return .assert (.found (← selector args) true)
  | .assertNotFound => do return .assert (.found (← selector args) false)
  | .assertUrl => do return .assert (.url (← args.text 0 "url"))
  | .assertTitle => do return .assert (.title (← args.text 0 "title"))
  | .assertTextInPage => do return .assert (.textInPage (← args.text 0 "text") true)
  | .assertTextNotInPage => do return .assert (.textInPage (← args.text 0 "text") false)
  | .assertVisible => assertingVisible config args true
  | .assertNotVisible => assertingVisible config args false
  | .assertValueOfElement => asserting config args "value" .valueOf
  | .assertValueOfElements => asserting config args "value" .valueAmong
  | .assertTextInElement => asserting config args "text" .textIn
  | .assertTextInElements => asserting config args "text" .textAmong
  | .assertElementContainsText => asserting config args "text" .textIn
  | .assertElementHasClass => asserting config args "class" (.hasClass · · · true)
  | .assertElementNotHasClass => asserting config args "class" (.hasClass · · · false)
  | .assertChecked => do return .assert (.checked (← selector args) true)
  | .assertNotChecked => do return .assert (.checked (← selector args) false)
  | .assertElementCount => do
    let s ← selector args
    return .assert (.count s (← args.nat 1 "count"))
  | .assertAlertPresent => return .assert (.alert true)
  | .assertAlertNotPresent => return .assert (.alert false)
  | .assertTextInLog => do return .assert (.textInLog (← args.text 0 "text") true)
  | .assertTextNotInLog => do return .assert (.textInLog (← args.text 0 "text") false)
  | .assertJsErrors => do return .assert (.scriptErrors (← args.boolOr 0 "present" true))
  | .assertJsErrorsCount => do
    match args.param? 0 "count" with
    | none => return .assert (.scriptErrorCount 0)
    | some _ => return .assert (.scriptErrorCount (← args.nat 0 "count"))

end Action

end PageScript
