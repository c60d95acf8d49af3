import PageScript.Session.Call
import PageScript.Text.Shown

/-!
# Assertions

An assertion asks the session one question and judges the reply, perhaps after waiting for an
element.  It has a complaint about every reply that it does not accept.  An assertion and its
opposite ask the same question and differ in the replies that they accept.
-/

namespace PageScript

/-- A question to a session, and what is wrong with a reply. -/
structure Assertion where
  first : Option Call
  question : Call
  /-- What is wrong with a reply, if anything. -/
  complaint? : question.Reply → Option String

namespace Assertion

/-- An assertion that tests a reply and wants a given outcome of the test. -/
def test (first : Option Call) (question : Call) (holds : question.Reply → Bool) (wanted : Bool)
    (complaint : question.Reply → String) : Assertion :=
  ⟨first, question, fun reply => if holds reply = wanted then none else some (complaint reply)⟩

/-- Some element is there, or none. -/
def found (selector : String) (wanted : Bool) : Assertion :=
  test none (.count selector) (fun n : Nat => 0 < n) wanted fun _ =>
    if wanted then "an element could not be found for the selector: " ++ selector
    else selector ++ " was unexpectedly found on the page"

/-- The address is a text. -/
def url (expected : String) : Assertion :=
  test none .currentUrl (fun url : String => url = expected) true fun url =>
    "the url was " ++ url ++ " instead of " ++ expected

/-- The title is a text. -/
def title (expected : String) : Assertion :=
  test none .title (fun title : String => title = expected) true fun title =>
    "the title was '" ++ title ++ "' instead of '" ++ expected ++ "'"

/-- The source of the page holds a text, or not. -/
def textInPage (text : String) (wanted : Bool) : Assertion :=
  test none .pageSource (fun source => Text.contains source text) wanted fun _ =>
    "'" ++ text ++ (if wanted then "' was not present in the page" else "' was present in the page")

/-- An element is visible, or not. -/
def visible (first : Call) (selector : String) (wanted : Bool) : Assertion :=
  test (some first) (.isDisplayed selector) (fun shown : Bool => shown) wanted fun _ =>
    "'" ++ selector ++ (if wanted then "' was not visible" else "' was visible")

/-- The value of an element is a text. -/
def valueOf (first : Call) (selector expected : String) : Assertion :=
  test (some first) (.getValue selector) (fun value : String => value = expected) true fun value =>
    "the value '" ++ expected ++ "' was not found in '" ++ selector ++ "'; found '" ++ value ++ "'"

/-- The value of some element is a text. -/
def valueAmong (first : Call) (selector expected : String) : Assertion :=
  test (some first) (.getValues selector) (fun values : List String => values.contains expected)
    true fun _ => "the value '" ++ expected ++ "' was not found in '" ++ selector ++ "'"

/-- The text of an element holds a text. -/
def textIn (first : Call) (selector expected : String) : Assertion :=
  test (some first) (.getText selector) (fun text => Text.contains text expected) true fun text =>
    "'" ++ expected ++ "' not found in '" ++ text ++ "'"

/-- The text of some element is a text. -/
def textAmong (first : Call) (selector expected : String) : Assertion :=
  test (some first) (.getTexts selector) (fun texts : List String => texts.contains expected)
    true fun _ => "the text '" ++ expected ++ "' was not found in '" ++ selector ++ "'"

/-- The classes of an element hold a text, or not. -/
def hasClass (first : Call) (selector name : String) (wanted : Bool) : Assertion :=
  test (some first) (.getAttribute selector "class")
    (fun classes : Option String => Text.contains (classes.getD "") name) wanted fun _ =>
      "'" ++ selector ++ (if wanted then "' does not have class '" else "' has class '") ++ name
        ++ "'"

/-- An element is checked, or not. -/
def checked (selector : String) (wanted : Bool) : Assertion :=
  test none (.isSelected selector) (fun checked : Bool => checked) wanted fun _ =>
    "'" ++ selector ++ (if wanted then "' was not checked" else "' was checked")

/-- There are so many elements. -/
def count (selector : String) (expected : Nat) : Assertion :=
  test none (.count selector) (fun n : Nat => n = expected) true fun n : Nat =>
    "expected " ++ Nat.repr expected ++ " elements from selector '" ++ selector ++ "', found "
      ++ Nat.repr n

/-- A dialog is waiting, or none is. -/
def alert (wanted : Bool) : Assertion :=
  test none .alertText (fun text : Option String => text.isSome) wanted fun text : Option String =>
    if wanted then "an alert was expected but none was present"
    else "an alert was present: '" ++ text.getD "" ++ "'"

/-- The console lines hold a text, or not. -/
def textInLog (text : String) (wanted : Bool) : Assertion :=
  test none .consoleLog (fun lines : List String => Text.contains (Text.join "\n" lines) text)
    wanted fun _ =>
      "'" ++ text ++ (if wanted then "' not found in the console log" else "' found in the console log")

/-- There were uncaught errors, or none. -/
def scriptErrors (wanted : Bool) : Assertion :=
  test none .jsErrors (fun errors : List String => !errors.isEmpty) wanted
    fun errors : List String =>
      if wanted then "expected JavaScript errors but there were none"
      else "unexpected JavaScript errors: " ++ Text.shownList errors

/-- There were so many uncaught errors. -/
def scriptErrorCount (expected : Nat) : Assertion :=
  test none .jsErrors (fun errors : List String => errors.length = expected) true
    fun errors : List String =>
      "expected " ++ Nat.repr expected ++ " JavaScript errors, found " ++ Nat.repr errors.length
        ++ ": " ++ Text.shownList errors

end Assertion

end PageScript
