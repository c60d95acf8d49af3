/-!
# Operations

What a command of a script may ask for, apart from the few names that a run treats on its own.  The
operations are listed in the order in which they are told, and `ofName?_name` says that each is
found under its name.
-/

namespace PageScript

/-- An operation. -/
inductive Operation where
  | go
  /-- Opens an address below the base and waits for elements. -/
  | goto
  | back
  | forward
  | refreshPage
  | click
  | clickAll
  /-- Sets the value of an element. -/
  | setValue
  /-- Sets the values of several elements. -/
  | setValues
  /-- Writes behind the values of several elements. -/
  | fill
  | clear
  | setSelectByText
  /-- Selects an option of a control that has taken the place of a select element. -/
  | setSelectize
  /-- Spreads a code over several elements. -/
  | fillOtp
  /-- Moves the mouse to an element. -/
  | moveTo
  /-- Moves the mouse to an element. -/
  | hover
  /-- Presses a key on an element. -/
  | sendKey
  | scrollToElement
  | scrollBrowser
  | js
  | wait
  /-- Waits until an element is there. -/
  | waitForPresence
  /-- Waits until an element is visible. -/
  | waitForVisible
  /-- Waits until no element is visible. -/
  | waitForInvisible
  /-- Waits until an element can be clicked. -/
  | waitForClickable
  /-- Waits until an element holds a text. -/
  | waitForText
  /-- Waits until the value of an element holds a text. -/
  | waitForTextInValue
  /-- Waits until the value of an element is a text. -/
  | waitForValue
  /-- Waits until the title is a text. -/
  | waitForTitle
  /-- Waits until the address holds a text. -/
  | waitForUrl
  /-- Waits until an element has an opacity. -/
  | waitForOpacity
  | waitForAlert
  /-- Waits until no element is there. -/
  | waitForKo
  /-- Writes a picture of the page to a file. -/
  | screenshot
  | showCursor
  | showKeys
  | getLog
  | log
  /-- Brings a window to the front. -/
  | switchToWindow
  | newWindow
  | closeWindow
  | acceptAlert
  | dismissAlert
  /-- Dismisses a dialog if there is one. -/
  | closeAlert
  | assertExists
  | assertFound
  | assertNotFound
  | assertUrl
  | assertTitle
  /-- The source of the page holds a text. -/
  | assertTextInPage
  /-- The source of the page does not hold a text. -/
  | assertTextNotInPage
  | assertVisible
  | assertNotVisible
  /-- The value of an element is a text. -/
  | assertValueOfElement
  /-- The value of some element is a text. -/
  | assertValueOfElements
  /-- The text of an element holds a text. -/
  | assertTextInElement
  /-- The text of some element is a text. -/
  | assertTextInElements
  /-- The text of an element holds a text. -/
  | assertElementContainsText
  | assertElementHasClass
  /-- An element does not have a class. -/
  | assertElementNotHasClass
  | assertChecked
  | assertNotChecked
  | assertElementCount
  | assertAlertPresent
  | assertAlertNotPresent
  /-- The console lines hold a text. -/
  | assertTextInLog
  /-- The console lines do not hold a text. -/
  | assertTextNotInLog
  /-- There were uncaught errors, or none. -/
  | assertJsErrors
  /-- There were so many uncaught errors. -/
  | assertJsErrorsCount
deriving DecidableEq, Repr

namespace Operation

/-- The name of an operation in a script. -/
def name : Operation → String
  | .go => "go"
  | .goto => "goto"
  | .back => "back"
  | .forward => "forward"
  | .refreshPage => "refresh_page"
  | .click => "click"
  | .clickAll => "click_all"
  | .setValue => "set_value"
  | .setValues => "set_values"
  | .fill => "fill"
  | .clear => "clear"
  | .setSelectByText => "set_select_by_text"
  | .setSelectize => "set_selectize"
  | .fillOtp => "fill_otp"
  | .moveTo => "move_to"
  | .hover => "hover"
  | .sendKey => "send_key"
  | .scrollToElement => "scroll_to_element"
  | .scrollBrowser => "scroll_browser"
  | .js => "js"
  | .wait => "wait"
  | .waitForPresence => "wait_for_presence"
  | .waitForVisible => "wait_for_visible"
  | .waitForInvisible => "wait_for_invisible"
  | .waitForClickable => "wait_for_clickable"
  | .waitForText => "wait_for_text"
  | .waitForTextInValue => "wait_for_text_in_value"
  | .waitForValue => "wait_for_value"
  | .waitForTitle => "wait_for_title"
  | .waitForUrl => "wait_for_url"
  | .waitForOpacity => "wait_for_opacity"
  | .waitForAlert => "wait_for_alert"
  | .waitForKo => "wait_for_ko"
  | .screenshot => "screenshot"
  | .showCursor => "show_cursor"
  | .showKeys => "show_keys"
  | .getLog => "get_log"
  | .log => "log"
  | .switchToWindow => "switch_to_window"
  | .newWindow => "new_window"
  | .closeWindow => "close_window"
  | .acceptAlert => "accept_alert"
  | .dismissAlert => "dismiss_alert"
  | .closeAlert => "close_alert"
  | .assertExists => "assert_exists"
  | .assertFound => "assert_found"
  | .assertNotFound => "assert_not_found"
  | .assertUrl => "assert_url"
  | .assertTitle => "assert_title"
  | .assertTextInPage => "assert_text_in_page"
  | .assertTextNotInPage => "assert_text_not_in_page"
  | .assertVisible => "assert_visible"
  | .assertNotVisible => "assert_not_visible"
  | .assertValueOfElement => "assert_value_of_element"
  | .assertValueOfElements => "assert_value_of_elements"
  | .assertTextInElement => "assert_text_in_element"
  | .assertTextInElements => "assert_text_in_elements"
  | .assertElementContainsText => "assert_element_contains_text"
  | .assertElementHasClass => "assert_element_has_class"
  | .assertElementNotHasClass => "assert_element_not_has_class"
  | .assertChecked => "assert_checked"
  | .assertNotChecked => "assert_not_checked"
  | .assertElementCount => "assert_element_count"
  | .assertAlertPresent => "assert_alert_present"
  | .assertAlertNotPresent => "assert_alert_not_present"
  | .assertTextInLog => "assert_text_in_log"
  | .assertTextNotInLog => "assert_text_not_in_log"
  | .assertJsErrors => "assert_js_errors"
  | .assertJsErrorsCount => "assert_js_errors_count"

/-- Every operation. -/
def all : List Operation :=
  [.go, .goto, .back, .forward, .refreshPage, .click, .clickAll, .setValue, .setValues, .fill,
   .clear, .setSelectByText, .setSelectize, .fillOtp, .moveTo, .hover, .sendKey,
   .scrollToElement, .scrollBrowser, .js, .wait, .waitForPresence, .waitForVisible,
   .waitForInvisible, .waitForClickable, .waitForText, .waitForTextInValue, .waitForValue,
   .waitForTitle, .waitForUrl, .waitForOpacity, .waitForAlert, .waitForKo, .screenshot,
   .showCursor, .showKeys, .getLog, .log, .switchToWindow, .newWindow, .closeWindow,
   .acceptAlert, .dismissAlert, .closeAlert, .assertExists, .assertFound, .assertNotFound,
   .assertUrl, .assertTitle, .assertTextInPage, .assertTextNotInPage, .assertVisible,
   .assertNotVisible, .assertValueOfElement, .assertValueOfElements, .assertTextInElement,
   .assertTextInElements, .assertElementContainsText, .assertElementHasClass,
   .assertElementNotHasClass, .assertChecked, .assertNotChecked, .assertElementCount,
   .assertAlertPresent, .assertAlertNotPresent, .assertTextInLog, .assertTextNotInLog,
   .assertJsErrors, .assertJsErrorsCount]

/-- The operation of a name. -/
def ofName? (name : String) : Option Operation := all.find? fun op => op.name = name

/-- The operation uses the session. -/
def needsSession : Operation → Bool
  | .wait | .log => false
  | _ => true

theorem mem_all (op : Operation) : op ∈ all := by
  cases op <;> decide

/-- Every operation is found under its name. -/
theorem ofName?_name (op : Operation) : ofName? op.name = some op := by
  have found : ∀ op ∈ all, ofName? op.name = some op := by decide +kernel
  exact found op (mem_all op)

/-- What is found under a name has that name. -/
theorem name_of_ofName? {s : String} {op : Operation} (h : ofName? s = some op) : op.name = s := by
  simpa using List.find?_some h

end Operation

/-- The names that a run treats on its own: `import` and `include`, and the readers `value_of` and
`text_of`. -/
def reservedNames : List String := ["import", "value_of", "text_of", "include"]

end PageScript
