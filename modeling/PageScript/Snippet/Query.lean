import PageScript.Snippet.Basic
import PageScript.Snippet.Fixed
import PageScript.Session.Condition

/-!
# Queries on elements

The snippets that a session evaluates in a page: what the elements of a selector are like, what is
done to them, and whether a condition holds.  Selectors, texts, values and names come from outside
and stand as given texts; everything around them is fixed.
-/

namespace PageScript

namespace Snippet

/-- The selector is an XPath expression and not a CSS selector. -/
def isXPath (selector : String) : Bool :=
  match selector.toList.head? with
  | some c => c = '/' || c = '('
  | none => false

/-- Runs a body with `els` standing for the elements of a selector. -/
def withElements (selector : String) (body : Snippet) : Snippet :=
  [.code ("(() => \x7b " ++ finder ++ " const els = __wrFind("), .given selector, .code "); "]
    ++ body ++ [.code " \x7d)()"]

/-- Evaluates an expression with `el` standing for the first element of a selector.  The answer
tells whether there is one. -/
def firstElement (selector : String) (expression : Snippet) : Snippet :=
  withElements selector
    ([.code ("const el = els[0]; if (!el) return \x7b found: false \x7d; "
        ++ "return \x7b found: true, value: (")]
      ++ expression ++ [.code ") \x7d;"])

/-! ## Reading -/

/-- The number of elements. -/
def count (selector : String) : Snippet := withElements selector [.code "return els.length;"]

/-- A text for every element. -/
def texts (selector expression : String) : Snippet :=
  withElements selector
    [.code ("return els.map((el) => String(" ++ expression ++ " ?? ''));")]

/-- The first element is visible. -/
def visibleFirst : Snippet := [.code "return els.length > 0 && __wrVisible(els[0]);"]

/-- An attribute of an element. -/
def attributeOf (name : String) : Snippet :=
  [.code "el.getAttribute(", .given name, .code ")"]

/-! ## Acting -/

/-- Clicks every element; the answer is their number. -/
def clickAll (selector : String) : Snippet :=
  withElements selector [.code "els.forEach((el) => el.click()); return els.length;"]

/-- Sets the value of an element, or writes behind the value that it has. -/
def assign (value : String) (behind : Bool) : Snippet :=
  [.code (if behind then "__wrSet(el, (el.value ?? '') + " else "__wrSet(el, "), .given value,
    .code ")"]

/-- Sets the value of the element at a position; the answer tells whether there is one. -/
def assignAt (selector : String) (index : Nat) (value : String) : Snippet :=
  withElements selector
    [.code ("const el = els[" ++ Nat.repr index
        ++ "]; if (!el) return false; el.focus(); __wrSet(el, "),
      .given value, .code "); return true;"]

/-- Selects the option of an element that has a text or a value. -/
def select (text : String) : Snippet :=
  [.code (lines
      ["(() => \x7b",
       "                        const opt = Array.from(el.options || []).find(o => o.text.trim() === "]),
    .given text, .code " || o.value === ", .given text,
    .code (lines
      [");",
       "                        if (!opt) return 'option_not_found';",
       "                        el.value = opt.value;",
       "                        el.dispatchEvent(new Event('change', \x7b bubbles: true \x7d));",
       "                        return 'ok';",
       "                    \x7d)()"])]

/-- Scrolls the window so that an element is at its top, moved down by an offset. -/
def scrollTo (offset : Int) : Snippet :=
  [.code ("window.scrollTo(0, el.getBoundingClientRect().top + window.scrollY + (" ++ intText offset
    ++ "))")]

/-- The middle of an element. -/
def centre : Snippet :=
  [.code ("(() => \x7b const r = el.getBoundingClientRect(); "
    ++ "return \x7b x: r.x + r.width / 2, y: r.y + r.height / 2 \x7d; \x7d)()")]

/-- Scrolls the window by a distance. -/
def scrollBy (x y : Int) : Snippet :=
  [.code ("window.scrollBy(" ++ intText x ++ ", " ++ intText y ++ ")")]

/-! ## Conditions -/

/-- Whether a condition holds. -/
def predicate : Condition → Snippet
  | .presence s => withElements s [.code "return els.length > 0;"]
  | .visible s => withElements s visibleFirst
  | .invisible s => withElements s [.code "return !els.some(__wrVisible);"]
  | .clickable s =>
    withElements s [.code "return els.length > 0 && __wrVisible(els[0]) && !els[0].disabled;"]
  | .absence s => withElements s [.code "return els.length === 0;"]
  | .textIn s t =>
    withElements s
      [.code "return els.length > 0 && (els[0].innerText || els[0].textContent || '').includes(",
        .given t, .code ");"]
  | .value s t exact =>
    withElements s
      (.code "return els.length > 0 && String(els[0].value ?? '')" ::
        (if exact then [.code " === ", .given t] else [.code ".includes(", .given t, .code ")"])
        ++ [.code ";"])
  | .opacity s v =>
    withElements s
      [.code ("return els.length > 0 && Math.abs(parseFloat(getComputedStyle(els[0]).opacity) - ("
        ++ Layout.plain.text v ++ ")) < 0.001;")]
  | .title t => [.code "document.title === ", .given t]
  | .url t => [.code "window.location.href.includes(", .given t, .code ")"]
  | .alert => [.code "(window.__wr_alerts || []).length > 0"]

/-! ## Replaced controls -/

/-- Sets a control that has taken the place of a select element, with two words where the selector
and the text belong. -/
def controlTemplate : String := lines
  ["(() => \x7b",
   "    const el = document.querySelector(SELECTOR);",
   "    const s = el && el.selectize;",
   "    if (!s) return 'no_selectize';",
   "    const text = TEXT;",
   "    const label = s.settings.labelField;",
   "    const key = Object.keys(s.options).find((k) => String(s.options[k][label]) === text);",
   "    if (key !== undefined) \x7b s.setValue(key); return 'ok'; \x7d",
   "    if (s.settings.create) \x7b s.createItem(text); return 'ok'; \x7d",
   "    return 'option_not_found';",
   "\x7d)()"]

/-- The template with the word for the selector replaced, and then the word for the text. -/
def setControl (selector text : String) : String :=
  Text.replace "TEXT" (Quoted.literal text)
    (Text.replace "SELECTOR" (Quoted.literal selector) controlTemplate)

end Snippet

end PageScript
