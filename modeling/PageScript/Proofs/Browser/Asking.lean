import PageScript.Browser.Session
import PageScript.Proofs.Snippet.Routing

/-!
# What a browser is asked for

A request is routed if it gives a selector that is an XPath expression to nothing but the function
that finds elements, and no other texts to the browser than those that are allowed.  A call about a
page may ask for what is routed with the texts that it has besides its selector (`Call.mayAsk`).

`Call.scripts` lists the snippets that a call evaluates on one way or another.  They are routed, so
what a call asks for (`Call.asks`) it may ask for.
-/

namespace PageScript

/-- A selector that is an XPath expression is only given to the function that finds elements, and
the other texts are allowed. -/
def Request.Routed (allowed : String → Prop) : Request → Prop
  | .evaluate _ code _ => code.Routed allowed
  | .click _ selector | .humanClick _ selector => Snippet.isXPath selector = false
  | .fill _ selector value => Snippet.isXPath selector = false ∧ allowed value
  | .typeText _ text => allowed text
  | .pressKey _ key => allowed key
  | .navigate _ url => allowed url
  | .newTab url => ∀ address, url = some address → allowed address
  | .launch _ | .activate _ | .closeTab _ | .quit | .back _ | .forward _ | .reload _ | .address _
  | .title _ | .pageText _ | .picture _ | .moveMouse _ _ _ => True

namespace Call

/-- The call opens, closes or changes windows. -/
def isAboutWindows : Call → Bool
  | .newWindow _ | .closeWindow | .switchToWindow _ => true
  | _ => false

/-- The call is about a page and runs no code of its own, and what it says to the page besides its
selector is allowed.  A field is emptied by saying nothing. -/
def Says (allowed : String → Prop) : Call → Prop
  | .go url => allowed url
  | .getAttribute _ name => allowed name
  | .setValue _ value _ => allowed value ∧ allowed ""
  | .setValueAt _ _ value => allowed value
  | .clear _ => allowed ""
  | .selectOption _ text => allowed text
  | .pressKey _ key => allowed key
  | .waitFor condition _ => condition.Says allowed
  | .executeScript _ | .stop | .newWindow _ | .closeWindow | .switchToWindow _ => False
  | _ => True

/-- The request is routed with the texts of the call. -/
def mayAsk (c : Call) (r : Request) : Prop := ∀ allowed, c.Says allowed → r.Routed allowed

end Call

/-! ## Scripts of calls -/

/-- The snippets for a page that has been led to. -/
def Config.arrivals (config : Config) : List Snippet :=
  [.code Snippet.hooks] ::
    if config.demo then [[.code Snippet.cursor], [.code Snippet.keys]] else []

/-- The snippets for an element that is to be used. -/
def Config.approaches (config : Config) (selector : String) : List Snippet :=
  if config.scrollToElement then
    [Snippet.firstElement selector (Snippet.scrollTo config.defaultOffset)]
  else []

namespace Call

/-- The snippets that a call evaluates on one way or another. -/
def scripts (config : Config) : Call → List Snippet
  | .go _ | .back | .forward | .refresh | .newWindow _ => config.arrivals
  | .pageSource => [[.code "document.documentElement.outerHTML"]]
  | .count s => [Snippet.count s]
  | .getText s => [Snippet.firstElement s [.code "el.innerText ?? el.textContent ?? ''"]]
  | .getTexts s => [Snippet.texts s "(el.innerText ?? el.textContent)"]
  | .getValue s => [Snippet.firstElement s [.code "el.value ?? ''"]]
  | .getValues s => [Snippet.texts s "el.value"]
  | .getAttribute s name => [Snippet.firstElement s (Snippet.attributeOf name)]
  | .isDisplayed s => [Snippet.withElements s Snippet.visibleFirst]
  | .isSelected s => [Snippet.firstElement s [.code "!!(el.checked || el.selected)"]]
  | .click s => Snippet.firstElement s [.code "el.click()"] :: config.approaches s
  | .clickAll s => [Snippet.clickAll s]
  | .setValue s v w =>
    [Snippet.firstElement s (Snippet.assign "" false), Snippet.firstElement s [.code "el.focus()"],
      Snippet.firstElement s (Snippet.assign v (!w.clear)),
      Snippet.firstElement s [.code "el.blur()"]] ++ config.approaches s
  | .setValueAt s i v => [Snippet.assignAt s i v]
  | .clear s => [Snippet.firstElement s (Snippet.assign "" false)]
  | .selectOption s text => [Snippet.firstElement s (Snippet.select text)]
  | .moveTo s => Snippet.firstElement s Snippet.centre :: config.approaches s
  | .pressKey s _ => [Snippet.firstElement s [.code "el.focus()"]]
  | .scrollTo s offset => [Snippet.firstElement s (Snippet.scrollTo offset)]
  | .scrollBy x y => [Snippet.scrollBy x y]
  | .executeScript code => [[.code code]]
  | .waitFor condition _ => [Snippet.predicate condition]
  | .consoleLog => [[.code "window.__wr_console || []"]]
  | .jsErrors => [[.code "window.__wr_errors || []"]]
  | .alertText => [[.code "(window.__wr_alerts || [])[0] ?? null"]]
  | .acceptAlert | .dismissAlert => [[.code "(window.__wr_alerts || []).shift() ?? null"]]
  | .showCursor => [[.code Snippet.cursor]]
  | .showKeys => [[.code Snippet.keys]]
  | .stop | .currentUrl | .title | .pageText | .screenshot _ | .windowCount | .switchToWindow _
  | .closeWindow => []

/-- The request is one of those that the call makes: it evaluates one of the snippets of the call, or
evaluates nothing. -/
def asks (config : Config) (c : Call) : Request → Prop
  | .evaluate _ code _ => code ∈ c.scripts config
  | r => c.mayAsk r

end Call

section

variable {allowed : String → Prop} {config : Config} {code : Snippet}

theorem Config.arrivals_routed (h : code ∈ config.arrivals) : code.Routed allowed := by
  have plain {text : String} (htext : 'q' ∉ text.toList) : Snippet.Routed allowed [.code text] :=
    .plain (Snippet.plain_code htext)
  rcases List.mem_cons.mp h with rfl | h
  · exact plain Snippet.letter_not_mem_hooks
  · split at h
    · rcases List.mem_cons.mp h with rfl | h
      · exact plain Snippet.letter_not_mem_cursor
      · rw [List.mem_singleton.mp h]
        exact plain Snippet.letter_not_mem_keys
    · cases h

theorem Config.approaches_routed {selector : String} (h : code ∈ config.approaches selector) :
    code.Routed allowed := by
  rw [approaches] at h
  split at h
  · rw [List.mem_singleton.mp h]
    exact Snippet.firstElement_routed selector (Snippet.scrollTo_plain _)
  · cases h

theorem Call.scripts_routed {c : Call} (hcode : code ∈ c.scripts config) (h : c.Says allowed) :
    code.Routed allowed := by
  have fixed {cs : List Char} (hcs : 'q' ∉ cs) :
      Snippet.Routed allowed [.code (String.ofList cs)] := .plain (Snippet.plain_fixed hcs)
  have first (s : String) {cs : List Char} (hcs : 'q' ∉ cs) :
      Snippet.Routed allowed (Snippet.firstElement s [.code (String.ofList cs)]) :=
    Snippet.firstElement_routed s (Snippet.plain_fixed hcs)
  have only {single : Snippet} (hcode : code ∈ [single]) (hsingle : single.Routed allowed) :
      code.Routed allowed := by rwa [List.mem_singleton.mp hcode]
  cases c with
  | go | back | forward | refresh => exact Config.arrivals_routed hcode
  | pageSource | consoleLog | jsErrors | alertText | acceptAlert | dismissAlert =>
    exact only hcode (fixed (by decide))
  | count s => exact only hcode (Snippet.count_routed s)
  | getText s | getValue s | isSelected s => exact only hcode (first s (by decide))
  | getTexts s | getValues s =>
    exact only hcode (Snippet.texts_routed s (Text.not_mem_ofList (by decide)))
  | getAttribute s name =>
    exact only hcode (Snippet.firstElement_routed s (Snippet.attributeOf_plain h))
  | isDisplayed s => exact only hcode (.found Snippet.visibleFirst_plain)
  | click s =>
    rcases List.mem_cons.mp hcode with rfl | hcode
    · exact first s (by decide)
    · exact Config.approaches_routed hcode
  | clickAll s => exact only hcode (Snippet.clickAll_routed s)
  | setValue s v w =>
    rcases List.mem_append.mp hcode with hcode | hcode
    · simp only [List.mem_cons, List.not_mem_nil, or_false] at hcode
      rcases hcode with rfl | rfl | rfl | rfl
      · exact Snippet.firstElement_routed s (Snippet.assign_plain h.2 false)
      · exact first s (by decide)
      · exact Snippet.firstElement_routed s (Snippet.assign_plain h.1 _)
      · exact first s (by decide)
    · exact Config.approaches_routed hcode
  | setValueAt s i v => exact only hcode (Snippet.assignAt_routed s i h)
  | clear s => exact only hcode (Snippet.firstElement_routed s (Snippet.assign_plain h false))
  | selectOption s text => exact only hcode (Snippet.firstElement_routed s (Snippet.select_plain h))
  | moveTo s =>
    rcases List.mem_cons.mp hcode with rfl | hcode
    · exact Snippet.firstElement_routed s Snippet.centre_plain
    · exact Config.approaches_routed hcode
  | pressKey s key => exact only hcode (first s (by decide))
  | scrollTo s offset =>
    exact only hcode (Snippet.firstElement_routed s (Snippet.scrollTo_plain offset))
  | scrollBy x y => exact only hcode (.plain (Snippet.scrollBy_plain x y))
  | waitFor condition timeout => exact only hcode (Snippet.predicate_routed h)
  | showCursor => exact only hcode (.plain (Snippet.plain_code Snippet.letter_not_mem_cursor))
  | showKeys => exact only hcode (.plain (Snippet.plain_code Snippet.letter_not_mem_keys))
  | executeScript | stop | newWindow | closeWindow | switchToWindow => exact h.elim
  | currentUrl | title | pageText | screenshot | windowCount => cases hcode

/-- What a call asks for it may ask for. -/
theorem Call.asks.mayAsk {c : Call} {r : Request} (h : c.asks config r) : c.mayAsk r := by
  cases r with
  | evaluate tab code kind => exact fun allowed hsays => scripts_routed h hsays
  | _ => exact h

end

end PageScript
