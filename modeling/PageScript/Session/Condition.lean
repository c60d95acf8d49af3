import PageScript.Number.Layout

/-!
# Conditions

What a session can wait for.  A condition on an element speaks of the first element of its selector,
unless it speaks of all of them.
-/

namespace PageScript

/-- Something that may come to hold on a page. -/
inductive Condition where
  | presence (selector : String)
  /-- The element is there and visible. -/
  | visible (selector : String)
  | invisible (selector : String)
  /-- The element is visible and enabled. -/
  | clickable (selector : String)
  /-- The text of the element holds a text. -/
  | textIn (selector text : String)
  /-- The value of the element is a text, or holds it. -/
  | value (selector text : String) (exact : Bool)
  /-- The title of the page is a text. -/
  | title (text : String)
  /-- The address of the page holds a text. -/
  | url (text : String)
  /-- The opacity of the element is a number. -/
  | opacity (selector : String) (value : Double)
  | alert
  | absence (selector : String)
deriving DecidableEq, Repr

namespace Condition

/-- A text between single quotes. -/
def quote (s : String) : String := "'" ++ s ++ "'"

/-- A condition as messages name it. -/
def text : Condition → String
  | .presence s => "presence of " ++ quote s
  | .visible s => quote s ++ " to be visible"
  | .invisible s => quote s ++ " to be invisible"
  | .clickable s => quote s ++ " to be clickable"
  | .textIn s t => "text " ++ quote t ++ " in " ++ quote s
  | .value s t true => "value " ++ quote t ++ " of " ++ quote s
  | .value s t false => quote t ++ " in value of " ++ quote s
  | .title t => "title " ++ quote t
  | .url t => "url containing " ++ quote t
  | .opacity s v => "opacity " ++ Layout.plain.text v ++ " of " ++ quote s
  | .alert => "an alert"
  | .absence s => quote s ++ " to be gone"

end Condition

end PageScript
