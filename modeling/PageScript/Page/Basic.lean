import PageScript.Session.Call
import PageScript.Text.Pieces

/-!
# Pages held in memory

A page without a browser, on which a script can be rehearsed.  It has fields by selector, an
address, a title, a source, console lines, errors and dialogs.  Every call to it may be made to fail
by its name.  A page does what a call says even after it was stopped; it only tells that it was.
-/

namespace PageScript

/-- An element of a page held in memory. -/
structure Field where
  value : String
  text : String
  /-- Its classes, if it has any. -/
  classes : Option String
  checked : Bool
  shown : Bool
  enabled : Bool
  opacity : Double
deriving DecidableEq, Repr

/-- A page held in memory. -/
structure Page where
  stopped : Bool
  url : String
  title : String
  /-- The source, which counts as the text, too. -/
  source : String
  elements : List (String × List Field)
  console : List String
  errors : List String
  /-- The dialogs that wait, oldest first. -/
  alerts : List String
  /-- What any code run in the page gives. -/
  script : Value
  /-- The calls that fail, by name, and what they say. -/
  faults : List (String × String)

namespace Page

/-- The elements of a selector. -/
def fields (p : Page) (selector : String) : List Field := (p.elements.lookup selector).getD []

/-- The first element of a selector. -/
def first (p : Page) (selector : String) : Except Error Field :=
  match p.fields selector with
  | f :: _ => .ok f
  | [] => .error (.actionFailed ("no element matches '" ++ selector ++ "'"))

/-- The elements of a selector replaced. -/
def putFields (p : Page) (selector : String) (fs : List Field) : Page :=
  { p with elements := p.elements.map fun (s, old) => if s = selector then (s, fs) else (s, old) }

/-- The elements that are put are the elements, where there were some. -/
theorem fields_putFields {p : Page} {selector : String} {fs gs : List Field} {f : Field}
    (h : p.fields selector = f :: fs) :
    (p.putFields selector gs).fields selector = gs := by
  have lookup (es : List (String × List Field)) (hes : (es.lookup selector).isSome = true) :
      (putFields { p with elements := es } selector gs).elements.lookup selector = some gs := by
    induction es with
    | nil => cases hes
    | cons e es ih =>
      obtain ⟨s, old⟩ := e
      by_cases hs : s = selector
      · simp [putFields, hs]
      · have other : (selector == s) = false := by simpa using Ne.symm hs
        rw [List.lookup_cons, other] at hes
        simp only [putFields, List.map_cons, if_neg hs, List.lookup_cons, other]
        exact ih hes
  have some : (p.elements.lookup selector).isSome = true := by
    cases helements : p.elements.lookup selector with
    | none => simp [fields, helements] at h
    | some _ => rfl
  rw [fields, lookup p.elements some]
  rfl

/-- The first element of a selector changed. -/
def changeFirst (p : Page) (selector : String) (change : Field → Field) : Except Error Unit × Page :=
  match p.fields selector with
  | f :: fs => (.ok (), p.putFields selector (change f :: fs))
  | [] => (.error (.actionFailed ("no element matches '" ++ selector ++ "'")), p)

/-- The first dialog taken away. -/
def closeAlert (p : Page) : Except Error Unit × Page :=
  match p.alerts with
  | _ :: rest => (.ok (), { p with alerts := rest })
  | [] => (.error (.actionFailed "no alert present"), p)

/-- A checked field becomes unchecked and the other way round. -/
def toggle (f : Field) : Field := { f with checked := !f.checked }

/-- A thousandth. -/
def thousandth : Double := .ofDecimal false 1 (-3)

/-- Whether a condition holds now. -/
def holds (p : Page) : Condition → Bool
  | .presence s => !(p.fields s).isEmpty
  | .absence s => (p.fields s).isEmpty
  | .visible s => (p.fields s).head?.any (·.shown)
  | .invisible s => (p.fields s).all (!·.shown)
  | .clickable s => (p.fields s).head?.any fun f => f.shown && f.enabled
  | .textIn s t => (p.fields s).head?.any fun f => Text.contains f.text t
  | .value s t exact =>
    (p.fields s).head?.any fun f => if exact then f.value = t else Text.contains f.value t
  | .title t => p.title = t
  | .url t => Text.contains p.url t
  | .opacity s v => (p.fields s).head?.any fun f => ((f.opacity.sub v).abs).lt thousandth
  | .alert => !p.alerts.isEmpty

/-- A reply that leaves the page as it is. -/
def reply {α : Type} (p : Page) (x : α) : Except Error α × Page := (.ok x, p)

/-- What a call does that does not fail by its name. -/
def answer (p : Page) : (c : Call) → Except Error c.Reply × Page
  | .stop => (.ok (), { p with stopped := true })
  | .go url => (.ok (), { p with url })
  | .back => p.reply ()
  | .forward => p.reply ()
  | .refresh => p.reply ()
  | .currentUrl => p.reply p.url
  | .title => p.reply p.title
  | .pageText => p.reply p.source
  | .pageSource => p.reply p.source
  | .count s => p.reply (p.fields s).length
  | .getText s => ((p.first s).map (·.text), p)
  | .getTexts s => p.reply ((p.fields s).map (·.text))
  | .getValue s => ((p.first s).map (·.value), p)
  | .getValues s => p.reply ((p.fields s).map (·.value))
  | .getAttribute s _ => ((p.first s).map (·.classes), p)
  | .isDisplayed s => p.reply ((p.fields s).head?.any (·.shown))
  | .isSelected s => ((p.first s).map (·.checked), p)
  | .click s => p.changeFirst s toggle
  | .clickAll s => (.ok (p.fields s).length, p.putFields s ((p.fields s).map toggle))
  | .setValue s value writing =>
    p.changeFirst s fun f => { f with value := (if writing.clear then "" else f.value) ++ value }
  | .setValueAt s index value =>
    let fs := p.fields s
    match fs[index]? with
    | some f => (.ok (), p.putFields s (fs.set index { f with value }))
    | none => (.error (.actionFailed ("no element " ++ Nat.repr index ++ " for '" ++ s ++ "'")), p)
  | .clear s => p.changeFirst s fun f => { f with value := "" }
  | .selectOption s text => p.changeFirst s fun f => { f with value := text }
  | .moveTo _ => p.reply ()
  | .pressKey _ _ => p.reply ()
  | .scrollTo _ _ => p.reply ()
  | .scrollBy _ _ => p.reply ()
  | .executeScript _ => p.reply p.script
  | .waitFor c _ =>
    if p.holds c then p.reply () else (.error (.timeout ("waiting for " ++ c.text)), p)
  | .screenshot _ => p.reply ()
  | .consoleLog => p.reply p.console
  | .jsErrors => p.reply p.errors
  | .windowCount => p.reply (1 : Nat)
  | .switchToWindow _ => p.reply ()
  | .newWindow _ => p.reply ()
  | .closeWindow => p.reply ()
  | .alertText => p.reply p.alerts.head?
  | .acceptAlert => p.closeAlert
  | .dismissAlert => p.closeAlert
  | .showCursor => p.reply ()
  | .showKeys => p.reply ()

/-- The session that a page is. -/
def session (config : Config) : Session Page where
  config := config
  status p := if p.stopped then .stopped else .running
  perform c p :=
    match p.faults.lookup c.name with
    | some text => ⟨.error (.actionFailed text), [], p⟩
    | none =>
      let (result, after) := p.answer c
      ⟨result, [], after⟩

end Page

end PageScript
