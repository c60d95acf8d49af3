import PageScript.Proofs.Browser.Uses
import PageScript.Proofs.Text.Quoted

/-!
# The forms of scripts

The form of a call has the words `selector` and `text` in the place of the selector and of the text
that the call gives to a page.  The snippets of a call are those of its form, with the selector and
the text put where the words are (`Call.scripts_eq`): they are fixed code with a literal in every
place of a word.  Since no text can leave its literal, calls of one form evaluate code that differs
inside these literals only (`texts_stay_in_literals`).

No text is lost on the way.  A call that asks a page about elements begins by evaluating its snippet
(`Use.perform_begins`), and `Call.words` lists the words that stand in the form of the snippet, in
order.
-/

namespace PageScript

/-! ## Other texts in a snippet -/

/-- A piece with another text in the place of its given text. -/
def Piece.rename (f : String → String) : Piece → Piece
  | .code s => .code s
  | .given s => .given (f s)

namespace Snippet

/-- A snippet with other texts in the places of its given texts. -/
def rename (f : String → String) (s : Snippet) : Snippet := s.map (Piece.rename f)

/-- The code of a snippet with literals of other texts in the places of its given texts. -/
def textWith (f : String → String) (s : Snippet) : String :=
  Text.join "" (s.map fun
    | .code text => text
    | .given word => Quoted.literal (f word))

variable (f : String → String)

theorem text_rename (s : Snippet) : (rename f s).text = s.textWith f := by
  rw [text, rename, textWith, List.map_map]
  exact congrArg (Text.join "") (List.map_congr_left fun piece _ => by cases piece <;> rfl)

@[simp] theorem rename_nil : rename f [] = [] := rfl

@[simp] theorem rename_code (text : String) (s : Snippet) :
    rename f (.code text :: s) = .code text :: rename f s := rfl

@[simp] theorem rename_given (text : String) (s : Snippet) :
    rename f (.given text :: s) = .given (f text) :: rename f s := rfl

@[simp] theorem rename_append (s t : Snippet) : rename f (s ++ t) = rename f s ++ rename f t :=
  List.map_append

@[simp] theorem rename_withElements (selector : String) (body : Snippet) :
    rename f (withElements selector body) = withElements (f selector) (rename f body) := by
  simp [withElements]

@[simp] theorem rename_firstElement (selector : String) (expression : Snippet) :
    rename f (firstElement selector expression) = firstElement (f selector) (rename f expression) := by
  simp [firstElement]

/-- Renaming changes given texts only. -/
@[simp] theorem frame_rename (s : Snippet) : (rename f s).frame = s.frame := by
  rw [rename, frame, frame, List.map_map]
  exact List.map_congr_left fun piece _ => by cases piece <;> rfl

end Snippet

/-! ## Forms -/

/-- A selector and a text in the places of the words for them. -/
def placed (selector text : String) : String → String := fun word =>
  if word = "selector" then selector else if word = "text" then text else word

section

variable (s t : String)

@[simp] theorem placed_selector : placed s t "selector" = s := if_pos rfl

@[simp] theorem placed_text : placed s t "text" = t := by simp [placed]

/-- An empty text is no word: it is what a field is emptied with. -/
@[simp] theorem placed_empty : placed s t "" = "" := by simp [placed]

end

namespace Condition

/-- The selector and the text of a condition. -/
def strings : Condition → String × String
  | .presence s | .visible s | .invisible s | .clickable s | .absence s | .opacity s _ => (s, "")
  | .textIn s t | .value s t _ => (s, t)
  | .title t | .url t => ("", t)
  | .alert => ("", "")

/-- A condition with words in the places of its selector and its text. -/
def form : Condition → Condition
  | .presence _ => .presence "selector"
  | .visible _ => .visible "selector"
  | .invisible _ => .invisible "selector"
  | .clickable _ => .clickable "selector"
  | .textIn _ _ => .textIn "selector" "text"
  | .value _ _ exact => .value "selector" "text" exact
  | .title _ => .title "text"
  | .url _ => .url "text"
  | .opacity _ v => .opacity "selector" v
  | .alert => .alert
  | .absence _ => .absence "selector"

/-- The words in the predicate of the form of a condition, in order. -/
def words : Condition → List String
  | .presence _ | .visible _ | .invisible _ | .clickable _ | .opacity _ _ | .absence _ => ["selector"]
  | .textIn _ _ | .value _ _ _ => ["selector", "text"]
  | .title _ | .url _ => ["text"]
  | .alert => []

theorem givenTexts_predicate (condition : Condition) :
    (Snippet.predicate condition.form).givenTexts = condition.words := by
  cases condition with
  | value s t whole => cases whole <;> rfl
  | _ => rfl

end Condition

namespace Call

/-- The selector of a call, and the text that it gives to a page besides. -/
def strings : Call → String × String
  | .count s | .getText s | .getTexts s | .getValue s | .getValues s | .isDisplayed s
  | .isSelected s | .click s | .clickAll s | .clear s | .moveTo s | .scrollTo s _ => (s, "")
  | .getAttribute s t | .setValue s t _ | .setValueAt s _ t | .selectOption s t
  | .pressKey s t => (s, t)
  | .waitFor condition _ => condition.strings
  | _ => ("", "")

/-- A call with words in the places of its selector and its text. -/
def form : Call → Call
  | .count _ => .count "selector"
  | .getText _ => .getText "selector"
  | .getTexts _ => .getTexts "selector"
  | .getValue _ => .getValue "selector"
  | .getValues _ => .getValues "selector"
  | .getAttribute _ _ => .getAttribute "selector" "text"
  | .isDisplayed _ => .isDisplayed "selector"
  | .isSelected _ => .isSelected "selector"
  | .click _ => .click "selector"
  | .clickAll _ => .clickAll "selector"
  | .setValue _ _ w => .setValue "selector" "text" w
  | .setValueAt _ i _ => .setValueAt "selector" i "text"
  | .clear _ => .clear "selector"
  | .selectOption _ _ => .selectOption "selector" "text"
  | .moveTo _ => .moveTo "selector"
  | .pressKey _ _ => .pressKey "selector" "text"
  | .scrollTo _ offset => .scrollTo "selector" offset
  | .waitFor condition timeout => .waitFor condition.form timeout
  | c => c

/-- Puts the selector and the text of a call where the words for them are. -/
def fill (c : Call) (form : Snippet) : Snippet := form.rename (placed c.strings.1 c.strings.2)

/-- The call asks a page about elements, or for a condition, and begins with that. -/
def asksPage : Call → Bool
  | .count _ | .getText _ | .getTexts _ | .getValue _ | .getValues _ | .getAttribute _ _
  | .isDisplayed _ | .isSelected _ | .clickAll _ | .setValueAt _ _ _ | .clear _ | .selectOption _ _
  | .pressKey _ _ | .scrollTo _ _ | .waitFor _ _ => true
  | _ => false

/-- The words in the snippet with which the form of such a call begins, in order. -/
def words : Call → List String
  | .getAttribute _ _ | .setValueAt _ _ _ => ["selector", "text"]
  | .clear _ => ["selector", ""]
  | .selectOption _ _ => ["selector", "text", "text"]
  | .waitFor condition _ => condition.words
  | _ => ["selector"]

/-- The form of a call that asks a page has one snippet, with these words in it. -/
theorem scripts_form (config : Config) {c : Call} (h : c.asksPage = true) :
    ∃ form, c.form.scripts config = [form] ∧ form.givenTexts = c.words := by
  cases c with
  | waitFor condition timeout => exact ⟨_, rfl, condition.givenTexts_predicate⟩
  | count | getText | getTexts | getValue | getValues | getAttribute | isDisplayed | isSelected
  | clickAll | setValueAt | clear | selectOption | pressKey | scrollTo => exact ⟨_, rfl, rfl⟩
  | _ => cases h

end Call

theorem Snippet.predicate_eq (condition : Condition) :
    predicate condition
      = (predicate condition.form).rename (placed condition.strings.1 condition.strings.2) := by
  cases condition with
  | value s t whole => cases whole <;> simp [predicate, Condition.form, Condition.strings]
  | visible s => simp [predicate, Condition.form, Condition.strings, visibleFirst]
  | _ => simp [predicate, Condition.form, Condition.strings]

/-- The snippets for a page that has been led to are given no texts. -/
theorem Config.arrivals_eq (config : Config) (f : String → String) :
    config.arrivals = config.arrivals.map (Snippet.rename f) := by
  rw [arrivals]
  split <;> simp

theorem Config.approaches_eq (config : Config) (selector text : String) :
    config.approaches selector
      = (config.approaches "selector").map (Snippet.rename (placed selector text)) := by
  rw [approaches, approaches]
  split <;> simp [Snippet.scrollTo]

/-- The snippets of a call are those of its form, filled. -/
theorem Call.scripts_eq (config : Config) (c : Call) :
    c.scripts config = (c.form.scripts config).map c.fill := by
  have whole : c.fill = Snippet.rename (placed c.strings.1 c.strings.2) := rfl
  rw [whole]
  cases c with
  | go | back | forward | refresh | newWindow => exact config.arrivals_eq _
  | click s =>
    rw [scripts, form, scripts, config.approaches_eq s ""]
    simp [strings]
  | moveTo s =>
    rw [scripts, form, scripts, config.approaches_eq s ""]
    simp [strings, Snippet.centre]
  | setValue s v w =>
    rw [scripts, form, scripts, config.approaches_eq s v]
    simp [strings, Snippet.assign]
  | waitFor condition timeout =>
    exact congrArg (fun code => [code]) (Snippet.predicate_eq condition)
  | _ =>
    simp [scripts, form, strings, Snippet.count, Snippet.texts, Snippet.visibleFirst,
      Snippet.attributeOf, Snippet.clickAll, Snippet.assign, Snippet.assignAt, Snippet.select,
      Snippet.scrollTo, Snippet.scrollBy]

/-! ## What calls evaluate -/

namespace Use

variable {τ : Type} (link : Link τ) {b : Browsing (τ × List Request)} {t : String}
  (halive : b.alive = true) (htab : b.tabs[b.current]? = some t)

include halive htab

/-- A call that asks a page begins by evaluating its snippet. -/
theorem perform_begins (config : Config) {c : Call} (h : c.asksPage = true) :
    ∃ code kind, c.scripts config = [code] ∧
      BeginsWith (.evaluate t code kind) b (perform link.traced config c) := by
  have made := undisturbed_made link
  have first (selector : String) (expression : Snippet) :=
    first_begins link halive htab selector expression
  cases c with
  | count | getTexts | getValues | isDisplayed | clickAll =>
    exact ⟨_, _, rfl, value_begins link halive htab _ _⟩
  | getText | getValue => exact ⟨_, _, rfl, (first _ _).map _⟩
  | isSelected => exact ⟨_, _, rfl, (first _ _).bind fun _ _ => .of_pure _⟩
  | getAttribute s name =>
    refine ⟨_, _, rfl, (first s _).bind fun v _ => ?_⟩
    split <;> exact .of_pure _
  | setValueAt s i v =>
    refine ⟨_, _, rfl, (value_begins link halive htab _ _).bind fun found _ => ?_⟩
    split
    · exact .of_throw _
    · exact .of_pure _
  | selectOption s text =>
    refine ⟨_, _, rfl, (first s _).bind fun answer _ => ?_⟩
    split
    · exact .of_pure _
    · exact .of_throw _
    · exact .of_throw _
  | clear s => exact ⟨_, _, rfl, doFirst_begins link halive htab s _⟩
  | pressKey s key =>
    refine ⟨_, _, rfl, (doFirst_begins link halive htab s _).bind fun _ made => ?_⟩
    exact .of_bind (tab_confined fun _ _ => trivial).keeps fun tab =>
      (request_confined (undisturbed_made link made) trivial).keeps
  | scrollTo s offset =>
    refine ⟨_, _, rfl, (doFirst_begins link halive htab s _).bind fun _ made => ?_⟩
    exact .of_bind (tab_confined fun _ _ => trivial).keeps fun tab => .of_pure _
  | waitFor condition timeout =>
    exact ⟨_, _, rfl, waitFor_begins link halive htab config condition timeout⟩
  | _ => cases h

end Use

/-- Every text is held in by its literal.  Whatever a call about a page evaluates is fixed code of its
form with literals of the selector and the text of the call in their places, so calls of one form
evaluate code that differs in these literals only.

And every text is there.  A call that asks a page in which a tab is in use begins by evaluating its
one snippet, whose form has the words for the texts in it, and so does the assignment of a value. -/
theorem texts_stay_in_literals :
    (∀ s : String, Quoted.Sealed s) ∧
    (∀ {τ : Type} (link : Link τ) (config : Config) (c : Call), c ≠ .stop →
      c.isAboutWindows = false → ∀ b : Browsing (τ × List Request), b.far.2 = [] →
      ∀ tab code kind, .evaluate tab code kind ∈
        ((Browsing.session link.traced config).perform c b).after.far.2 →
      ∃ form ∈ c.form.scripts config, code = c.fill form ∧
        code.text = form.textWith (placed c.strings.1 c.strings.2)) ∧
    (∀ (config : Config) (c d : Call), c.form = d.form →
      (c.scripts config).map Snippet.frame = (d.scripts config).map Snippet.frame) ∧
    (∀ (config : Config) (c : Call), c.asksPage = true →
      ∃ form, c.form.scripts config = [form] ∧ form.givenTexts = c.words ∧
        ∀ {τ : Type} (link : Link τ) (b : Browsing (τ × List Request)) (t : String),
          b.alive = true → b.tabs[b.current]? = some t → ∃ kind more,
            ((Browsing.session link.traced config).perform c b).after.far.2
              = b.far.2 ++ .evaluate t (c.fill form) kind :: more) ∧
    ∀ behind : Bool, ∃ form : Snippet, form.givenTexts = ["selector", "text"] ∧
      ∀ {τ : Type} (link : Link τ) (b : Browsing (τ × List Request)) (t s v : String),
        b.alive = true → b.tabs[b.current]? = some t →
          (Use.assign link.traced s v behind b).2.far.2
            = b.far.2 ++ [.evaluate t (form.rename (placed s v)) .found] := by
  refine ⟨Quoted.sealed, fun link config c hstop hwindow b hb tab code kind hcode => ?_,
    fun config c d hform => ?_, fun config c hasks => ?_, fun behind => ?_⟩
  · rcases Browsing.asked_perform link config hstop hwindow b hcode with made | asks
    · rw [hb] at made
      cases made
    · have script : code ∈ c.scripts config := asks
      rw [c.scripts_eq, List.mem_map] at script
      obtain ⟨form, hform, rfl⟩ := script
      exact ⟨form, hform, rfl, Snippet.text_rename _ form⟩
  · have frames (c : Call) :
        (c.scripts config).map Snippet.frame = (c.form.scripts config).map Snippet.frame := by
      rw [c.scripts_eq, List.map_map]
      exact List.map_congr_left fun form _ => Snippet.frame_rename _ form
    rw [frames c, frames d, hform]
  · obtain ⟨form, hform, hwords⟩ := c.scripts_form config hasks
    refine ⟨form, hform, hwords, fun link b t halive htab => ?_⟩
    obtain ⟨code, kind, hscript, more, hmade⟩ :=
      Use.perform_begins (b := { b with notes := [] }) link halive htab config hasks
    rw [c.scripts_eq, hform, List.map_singleton, List.singleton_inj] at hscript
    refine ⟨kind, more, hmade.symm.trans ?_⟩
    rw [hscript, List.append_assoc]
    rfl
  · refine ⟨Snippet.firstElement "selector" (Snippet.assign "text" behind), rfl, ?_⟩
    intro τ link b t s v halive htab
    have assigned : (Snippet.firstElement "selector" (Snippet.assign "text" behind)).rename
        (placed s v) = Snippet.firstElement s (Snippet.assign v behind) := by
      simp [Snippet.assign]
    rw [assigned]
    exact Use.doFirst_traced link halive htab s _

/-- A browser where every element has an attribute, and that has been asked for nothing. -/
def attributeLink : Link Unit where
  ask
    | .evaluate _ _ .found, _ => (.ok (true, .text "there"), ())
    | _, _ => (.error .sessionStopped, ())
  instant _ := 0
  unanswered := .sessionStopped

/-- A browser in use that has been asked for nothing. -/
def unasked : Browsing (Unit × List Request) := ⟨((), []), true, ["T"], 0, ⟨[], []⟩, []⟩

/-- A selector and a name that look like the end of a script. -/
theorem texts_stay_in_literals_hostile :
    let c : Call := .getAttribute "\"); alert(1); (\"" "\\"
    let made := ((Browsing.session attributeLink.traced .usual).perform c unasked).after.far.2
    Quoted.Sealed "\"); alert(1); (\"" ∧
      (∃ code kind, made = [.evaluate "T" code kind] ∧
        (∃ form ∈ c.form.scripts .usual, code = c.fill form ∧
          code.text = form.textWith (placed "\"); alert(1); (\"" "\\")) ∧
        code.text = "(() => \x7b " ++ Snippet.finder
          ++ " const els = __wrFind(\"\\\"); alert(1); (\\\"\"); const el = els[0]; "
          ++ "if (!el) return \x7b found: false \x7d; "
          ++ "return \x7b found: true, value: (el.getAttribute(\"\\\\\")) \x7d; \x7d)()") ∧
      (c.scripts .usual).map Snippet.frame
        = ((Call.getAttribute "#a" "class").scripts .usual).map Snippet.frame ∧
      c.asksPage = true ∧ (∃ form, c.form.scripts .usual = [form] ∧
        form.givenTexts = ["selector", "text"] ∧
        ∃ kind more, made = .evaluate "T" (c.fill form) kind :: more) ∧
      ∃ form : Snippet, form.givenTexts = ["selector", "text"] ∧
        (Use.assign attributeLink.traced "\"" "\\" true unasked).2.far.2
          = [.evaluate "T" (form.rename (placed "\"" "\\")) .found] := by
  intro c made
  obtain ⟨sealed, evaluated, alike, begins, assigns⟩ := texts_stay_in_literals
  have asked : made = [.evaluate "T" (Snippet.firstElement "\"); alert(1); (\""
      (Snippet.attributeOf "\\")) .found] := rfl
  have among : .evaluate "T" (Snippet.firstElement "\"); alert(1); (\""
      (Snippet.attributeOf "\\")) .found ∈ made := by
    rw [asked]
    exact List.mem_cons_self
  refine ⟨sealed _, ⟨_, _, asked, ?_, ?_⟩, alike .usual c (.getAttribute "#a" "class") rfl, rfl, ?_, ?_⟩
  · exact evaluated attributeLink .usual c nofun rfl unasked rfl "T" _ _ among
  · decide +kernel
  · obtain ⟨form, hform, hwords, hmade⟩ := begins .usual c rfl
    exact ⟨form, hform, hwords, hmade attributeLink unasked "T" rfl rfl⟩
  · obtain ⟨form, hwords, hmade⟩ := assigns true
    exact ⟨form, hwords, hmade attributeLink unasked "T" "\"" "\\" rfl rfl⟩

end PageScript
