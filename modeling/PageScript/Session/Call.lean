import PageScript.Arguments
import PageScript.Session.Condition
import PageScript.Session.Config
import PageScript.Output

/-!
# Sessions

A session is a browser with its pages as a script sees it.  It is used by calls, and every call has
a kind of reply of its own.  A call may fail, and it may make notes on the way.

What a session really is stays open here: `Session σ` is a state of any type `σ` together with what
the calls do to it.  A page held in memory and a browser at the end of a line are two of them.
-/

namespace PageScript

/-- How a value is written into a field. -/
structure Writing where
  clear : Bool
  /-- The field loses the focus afterwards. -/
  blur : Bool
  typing : Bool
deriving DecidableEq, Repr

/-- The field is emptied, set and left. -/
def Writing.usual : Writing := ⟨true, true, false⟩

/-- A use of a session.  A call with a selector is about its first element, if not said
otherwise. -/
inductive Call where
  | stop
  | go (url : String)
  | back
  | forward
  | refresh
  | currentUrl
  | title
  | pageText
  | pageSource
  | count (selector : String)
  | getText (selector : String)
  | getTexts (selector : String)
  | getValue (selector : String)
  | getValues (selector : String)
  | getAttribute (selector name : String)
  | isDisplayed (selector : String)
  /-- The element is checked or selected. -/
  | isSelected (selector : String)
  | click (selector : String)
  /-- Clicks all elements; the reply is their number. -/
  | clickAll (selector : String)
  /-- Writes a value into the element. -/
  | setValue (selector value : String) (writing : Writing)
  /-- Sets the value of the element at a position. -/
  | setValueAt (selector : String) (index : Nat) (value : String)
  | clear (selector : String)
  /-- Selects an option of the element. -/
  | selectOption (selector text : String)
  /-- Moves the mouse to the element. -/
  | moveTo (selector : String)
  /-- Presses a key on the element. -/
  | pressKey (selector key : String)
  | scrollTo (selector : String) (offset : Int)
  | scrollBy (x y : Int)
  /-- Runs code in the page; the reply is its value. -/
  | executeScript (code : String)
  | waitFor (condition : Condition) (timeout : Duration)
  /-- Writes a picture of the page to a file. -/
  | screenshot (path : String)
  | consoleLog
  | jsErrors
  | windowCount
  /-- Brings a window to the front. -/
  | switchToWindow (index : Nat)
  | newWindow (url : Option String)
  | closeWindow
  /-- The text of the waiting dialog. -/
  | alertText
  | acceptAlert
  | dismissAlert
  | showCursor
  | showKeys
deriving DecidableEq, Repr

namespace Call

/-- The name of a call. -/
def name : Call → String
  | .stop => "stop"
  | .go _ => "go"
  | .back => "back"
  | .forward => "forward"
  | .refresh => "refresh"
  | .currentUrl => "current_url"
  | .title => "title"
  | .pageText => "page_text"
  | .pageSource => "page_source"
  | .count _ => "count"
  | .getText _ => "get_text"
  | .getTexts _ => "get_texts"
  | .getValue _ => "get_value"
  | .getValues _ => "get_values"
  | .getAttribute _ _ => "get_attribute"
  | .isDisplayed _ => "is_displayed"
  | .isSelected _ => "is_selected"
  | .click _ => "click"
  | .clickAll _ => "click_all"
  | .setValue _ _ _ => "set_value"
  | .setValueAt _ _ _ => "set_value_at"
  | .clear _ => "clear"
  | .selectOption _ _ => "select_option"
  | .moveTo _ => "move_to"
  | .pressKey _ _ => "press_key"
  | .scrollTo _ _ => "scroll_to"
  | .scrollBy _ _ => "scroll_by"
  | .executeScript _ => "execute_script"
  | .waitFor _ _ => "wait_for"
  | .screenshot _ => "screenshot"
  | .consoleLog => "console_log"
  | .jsErrors => "js_errors"
  | .windowCount => "window_count"
  | .switchToWindow _ => "switch_to_window"
  | .newWindow _ => "new_window"
  | .closeWindow => "close_window"
  | .alertText => "alert_text"
  | .acceptAlert => "accept_alert"
  | .dismissAlert => "dismiss_alert"
  | .showCursor => "show_cursor"
  | .showKeys => "show_keys"

/-- What a call is answered with. -/
abbrev Reply : Call → Type
  | .currentUrl | .title | .pageText | .pageSource | .getText _ | .getValue _ => String
  | .getTexts _ | .getValues _ | .consoleLog | .jsErrors => List String
  | .count _ | .clickAll _ | .windowCount => Nat
  | .getAttribute _ _ | .alertText => Option String
  | .isDisplayed _ | .isSelected _ => Bool
  | .executeScript _ => Value
  | _ => Unit

/-- The call only looks at the page. -/
def isReading : Call → Bool
  | .currentUrl | .title | .pageText | .pageSource | .count _ | .getText _ | .getTexts _
  | .getValue _ | .getValues _ | .getAttribute _ _ | .isDisplayed _ | .isSelected _
  | .waitFor _ _ | .consoleLog | .jsErrors | .windowCount | .alertText => true
  | _ => false

end Call

/-- A session is in use, or it has come to its end. -/
inductive Status where
  | running
  | stopped
deriving DecidableEq, Repr

/-- What comes of a call. -/
structure Outcome (σ α : Type) where
  result : Except Error α
  notes : List (Level × String)
  after : σ

/-- A session with states of type `σ`. -/
structure Session (σ : Type) where
  config : Config
  /-- Whether the session can be used. -/
  status : σ → Status
  perform : (c : Call) → σ → Outcome σ c.Reply

/-- A session whose state also keeps the calls made so far, oldest first. -/
def Session.traced {σ : Type} (s : Session σ) : Session (σ × List Call) where
  config := s.config
  status state := s.status state.1
  perform c state :=
    let outcome := s.perform c state.1
    ⟨outcome.result, outcome.notes, outcome.after, state.2 ++ [c]⟩

end PageScript
