import PageScript.Proofs.Browser.Tabs
import PageScript.Proofs.Browser.Uses
import PageScript.Proofs.Operation.Calls
import PageScript.Proofs.Operation.Parameters
import PageScript.Proofs.Snippet.Control

/-!
# Selectors of operations

Whatever an operation is given, its selectors reach the browser in requests that are routed: an XPath
expression is only given to the function that finds elements (`Request.Routed`).  What else the
operation says to the page is known from its other arguments (`Operation.Says`).

One operation is different.  The script of a replaced control looks its selector up as CSS, so an
XPath expression is none to it (`Operation.routed_iff`).
-/

namespace PageScript

/-! ## What operations say -/

namespace Operation

/-- The operation is given selectors. -/
def takesSelector (op : Operation) : Bool :=
  op.parameters.any (fun name => ["selector", "wait_for_visible", "wait_for_presence"].contains name)
    || [setValues, fill].contains op

/-- What an operation says to the page besides its selectors: nothing, the name of the attribute that
holds classes, and what its other arguments say. -/
def Says (op : Operation) (config : Config) (args : Arguments) (text : String) : Prop :=
  text = "" ∨ text = "class" ∨
    match op with
    | .goto => ∃ url, args.text 0 "url" = .ok url ∧ text = config.resolveUrl url
    | .setValue | .waitForTextInValue | .waitForValue => args.text 1 "value" = .ok text
    | .setValues | .fill => ∃ pairs, Action.rows args = .ok pairs ∧ ∃ pair ∈ pairs, text = pair.2
    | .setSelectByText | .waitForText => args.text 1 "text" = .ok text
    | .fillOtp =>
      ∃ code, args.text 1 "code" = .ok code ∧ ∃ x ∈ code.toList, text = String.singleton x
    | .sendKey => ∃ key, args.text 1 "key" = .ok key ∧ text = Action.keyName key
    | _ => False

end Operation

namespace Yields

variable {α : Type}

/-- What is read is what it is. -/
theorem self (r : Except Error α) : Yields (fun x => r = .ok x) r := fun _ h => h

end Yields

namespace Action

variable (config : Config) (args : Arguments)

/-- An operation that is given selectors says nothing but what its other arguments say, unless it
sets a replaced control. -/
theorem ofOperation_says {op : Operation} (hselector : op.takesSelector = true)
    (hop : op ≠ .setSelectize) :
    Yields (Makes fun c => c.Says (op.Says config args)) (ofOperation config op args) := by
  have presence : ∀ selector d, (Call.waitFor (.presence selector) d).Says (op.Says config args) :=
    fun _ _ => trivial
  have visible : ∀ selector d, (Call.waitFor (.visible selector) d).Says (op.Says config args) :=
    fun _ _ => trivial
  cases op with
  | go | back | forward | refreshPage | scrollBrowser | js | wait | waitForTitle | waitForUrl
  | waitForAlert | screenshot | showCursor | showKeys | getLog | log | switchToWindow | newWindow
  | closeWindow | acceptAlert | dismissAlert | closeAlert | assertUrl | assertTitle
  | assertTextInPage | assertTextNotInPage | assertAlertPresent | assertAlertNotPresent
  | assertTextInLog | assertTextNotInLog | assertJsErrors | assertJsErrorsCount => cases hselector
  | setSelectize => exact absurd rfl hop
  | goto =>
    refine .of_both (.self _) fun url hurl => .of_pure ?_
    rintro c (rfl | ⟨s, d, rfl | rfl⟩)
    · exact .inr (.inr ⟨url, hurl, rfl⟩)
    · exact trivial
    · exact trivial
  | click | moveTo | hover =>
    exact settled_makes config args presence fun _ => .of_pure trivial
  | clear => exact settled_makes config args presence fun _ => .of_pure (.inl rfl)
  | scrollToElement =>
    exact settled_makes config args presence fun _ => .of_bind fun _ => .of_pure trivial
  | clickAll => exact .of_bind fun _ => .of_pure (makes_call trivial)
  | setValue =>
    exact settled_makes config args presence fun _ => .of_both (.self _) fun value hvalue =>
      .of_bind fun _ => .of_bind fun _ => .of_bind fun _ =>
        .of_pure ⟨.inr (.inr hvalue), .inl rfl⟩
  | setValues | fill =>
    exact filling_makes config args presence _ fun pairs hpairs pair hpair _ =>
      ⟨.inr (.inr ⟨pairs, hpairs, pair, hpair, rfl⟩), .inl rfl⟩
  | setSelectByText =>
    exact settled_makes config args presence fun _ => .of_both (.self _) fun text htext =>
      .of_pure (.inr (.inr htext))
  | sendKey =>
    exact settled_makes config args presence fun _ => .of_both (.self _) fun key hkey =>
      .of_pure (.inr (.inr ⟨key, hkey, rfl⟩))
  | fillOtp =>
    refine .of_bind fun _ => .of_both (.self _) fun code hcode => .of_pure ?_
    rintro c (⟨d, rfl⟩ | rfl | ⟨i, x, hx, rfl⟩)
    · exact trivial
    · exact trivial
    · exact .inr (.inr ⟨code, hcode, x, hx, rfl⟩)
  | waitForPresence | waitForVisible | waitForInvisible | waitForClickable | waitForKo =>
    exact waiting_makes config args _ (.of_bind fun _ => .of_pure fun _ => trivial)
  | waitForText | waitForTextInValue | waitForValue =>
    exact waiting_makes config args _ (.of_bind fun _ => .of_both (.self _) fun text htext =>
      .of_pure fun _ => .inr (.inr htext))
  | waitForOpacity =>
    exact waiting_makes config args _ (.of_bind fun _ => .of_bind fun _ => .of_pure fun _ => trivial)
  | assertExists | assertFound | assertNotFound | assertChecked | assertNotChecked =>
    exact .of_bind fun _ => .of_pure (makes_ask rfl trivial)
  | assertVisible | assertNotVisible =>
    exact assertingVisible_makes config args presence _ fun _ => trivial
  | assertValueOfElement | assertValueOfElements | assertTextInElement | assertTextInElements
  | assertElementContainsText =>
    exact asserting_makes config args presence visible _ (fun _ _ _ => rfl) fun _ _ _ => trivial
  | assertElementHasClass | assertElementNotHasClass =>
    exact asserting_makes config args presence visible _ (fun _ _ _ => rfl) fun _ _ _ =>
      .inr (.inl rfl)
  | assertElementCount =>
    exact .of_bind fun _ => .of_bind fun _ => .of_pure (makes_ask rfl trivial)

end Action

/-! ## What operations ask for -/

/-- All that has been asked for is routed. -/
def Browsing.Routed {τ : Type} (allowed : String → Prop) (b : Browsing (τ × List Request)) : Prop :=
  ∀ r ∈ b.far.2, r.Routed allowed

namespace Operation

variable {τ : Type} (link : Link τ)

/-- What a call asks for is routed with what it says. -/
theorem preserves_routed (config : Config) {allowed : String → Prop} {c : Call}
    (h : c.Says allowed) :
    c.Preserves (Browsing.session link.traced config) (Browsing.Routed allowed) := by
  have hstop : c ≠ .stop := by
    rintro rfl
    exact h
  have hwindow : c.isAboutWindows = false := by
    cases c with
    | newWindow | closeWindow | switchToWindow => exact h.elim
    | _ => rfl
  intro b hb r hr
  rcases Browsing.asked_perform link config hstop hwindow b hr with made | asks
  · exact hb r made
  · exact asks.mayAsk allowed h

/-- All that an operation with selectors asks for is routed, unless it sets a replaced control. -/
theorem perform_routed (config : Config) {op : Operation} (args : Arguments)
    (hselector : op.takesSelector = true) (hop : op ≠ .setSelectize) :
    Doing.Preserves (Browsing.Routed (op.Says config args))
      (op.perform (Browsing.session link.traced config) args) :=
  perform_preserves_of fun action haction c hc => preserves_routed link config
    (Action.ofOperation_says config args hselector hop action haction c hc)

end Operation

/-! ## Replaced controls -/

section

variable {τ : Type} {link : Link τ} {config : Config} {b : Browsing τ} {far : τ} {t : String}
  (halive : b.alive = true) (htab : b.tabs[b.current]? = some t)

include halive htab

/-- What holds at once is found at once. -/
theorem Use.waitFor_found {condition : Condition}
    (hask : link.ask (.evaluate t (Snippet.predicate condition) .bool) b.far = (.ok true, far))
    (timeout : Duration) :
    waitFor link config condition timeout b = (.ok (), { b with far }) := by
  have found : waiting link config condition timeout b = some (.ok (), { b with far }) :=
    Waiting.wait_found_first (value_answered halive htab hask)
  rw [waitFor, found]

end

namespace Browsing

variable {τ : Type} {link : Link τ} {b : Browsing (τ × List Request)} {t : String}
  (halive : b.alive = true) (htab : b.tabs[b.current]? = some t) (config : Config)

include halive htab

/-- What holds at once is asked for once. -/
theorem perform_waitFor {condition : Condition} {far : τ}
    (hask : link.ask (.evaluate t (Snippet.predicate condition) .bool) b.far.1 = (.ok true, far))
    (timeout : Duration) :
    (session link.traced config).perform (.waitFor condition timeout) b
      = ⟨.ok (), [], { b with
          far := (far, b.far.2 ++ [.evaluate t (Snippet.predicate condition) .bool]),
          notes := [] }⟩ := by
  have asked : link.traced.ask (.evaluate t (Snippet.predicate condition) .bool) b.far
      = (.ok true, (far, b.far.2 ++ [.evaluate t (Snippet.predicate condition) .bool])) := by
    show (let (answer, after) := link.ask (.evaluate t (Snippet.predicate condition) .bool) b.far.1
      (answer, after, b.far.2 ++ [Request.evaluate t (Snippet.predicate condition) .bool])) = _
    rw [hask]
  have found : Use.perform link.traced config (.waitFor condition timeout) { b with notes := [] }
      = (.ok (), { b with
          far := (far, b.far.2 ++ [.evaluate t (Snippet.predicate condition) .bool]),
          notes := [] }) :=
    Use.waitFor_found (b := { b with notes := [] }) halive htab asked timeout
  exact session_perform found

/-- Code is asked to be evaluated once, whatever comes of it. -/
theorem perform_executeScript (code : String) :
    ((session link.traced config).perform (.executeScript code) b).after.far.2
      = b.far.2 ++ [.evaluate t [.code code] .any] := by
  have asked := Use.value_traced (b := { b with notes := [] }) link halive htab [.code code] .any
  obtain ⟨x, v, hvalue⟩ : ∃ x v,
    Use.value link.traced [.code code] .any { b with notes := [] } = (x, v) := ⟨_, _, rfl⟩
  rw [hvalue] at asked
  cases x with
  | error e =>
    rw [session_perform (c := .executeScript code) (Lockstep.bind_error hvalue _)]
    exact asked
  | ok x =>
    rw [session_perform (c := .executeScript code) (Lockstep.bind_ok hvalue _)]
    exact asked

end Browsing

namespace Operation

/-- Once the element is there, the script of the control is evaluated. -/
theorem setSelectize_asks {τ : Type} {link : Link τ} (config : Config) {args : Arguments}
    {selector text : String} (hselector : args.text 0 "selector" = .ok selector)
    (htext : args.text 1 "text" = .ok text) {w : World (Browsing (τ × List Request))} {t : String}
    (halive : w.session.alive = true) (htab : w.session.tabs[w.session.current]? = some t) {far : τ}
    (hthere : link.ask (.evaluate t (Snippet.predicate (.presence selector)) .bool)
      w.session.far.1 = (.ok true, far)) :
    (setSelectize.perform (Browsing.session link.traced config) args w).2.session.far.2
      = w.session.far.2 ++ [.evaluate t (Snippet.predicate (.presence selector)) .bool,
        .evaluate t [.code (Snippet.setControl selector text)] .any] := by
  have running : (Browsing.session link.traced config).status w.session = .running := if_pos halive
  have waited := Browsing.perform_waitFor halive htab config hthere
    (Browsing.session link.traced config).config.timeout
  rw [setSelectize_session _ hselector htext w running (congrArg Outcome.result waited), waited]
  generalize Snippet.setControl selector text = code
  dsimp only
  rw [Browsing.perform_executeScript (by exact halive) (by exact htab), List.append_assoc]
  rfl

/-- A browser in which everything that is looked for is there. -/
def fullLink : Link Unit where
  ask
    | .evaluate _ _ .bool, _ => (.ok true, ())
    | _, _ => (.error .sessionStopped, ())
  instant _ := 0
  unanswered := .sessionStopped

/-- A browser in use that has not been asked for anything. -/
def freshWorld : World (Browsing (Unit × List Request)) :=
  ⟨⟨((), []), true, ["T"], 0, ⟨[], []⟩, []⟩, .still⟩

/-- The arguments of a control that is given by an XPath expression. -/
def divArguments : Arguments := ⟨"set_selectize", [.text "//div", .text "x"]⟩

theorem setSelectize_asks_div :
    (setSelectize.perform (Browsing.session fullLink.traced .usual) divArguments
      freshWorld).2.session.far.2
      = [.evaluate "T" (Snippet.predicate (.presence "//div")) .bool,
        .evaluate "T" [.code (Snippet.control "//div" "x")] .any] := by
  have script : Snippet.setControl "//div" "x" = Snippet.control "//div" "x" :=
    (Snippet.setControl_eq_iff _ _).mpr (Text.contains_eq_false (by decide))
  rw [← script]
  exact setSelectize_asks .usual rfl rfl rfl rfl rfl

/-- An XPath expression is only given to the function that finds elements, whatever the operation is
given, exactly if the operation does not set a replaced control. -/
theorem routed_iff (op : Operation) :
    (op.takesSelector = true → ∀ {τ : Type} (link : Link τ) (config : Config) (args : Arguments)
      (w : World (Browsing (τ × List Request))), w.session.far.2 = [] →
      ∀ r ∈ (op.perform (Browsing.session link.traced config) args w).2.session.far.2,
        r.Routed (op.Says config args)) ↔
    op ≠ .setSelectize := by
  constructor
  · rintro h rfl
    have routed := h rfl fullLink .usual divArguments freshWorld rfl
    rw [setSelectize_asks_div] at routed
    -- the script is the second request
    exact Snippet.control_not_routed _ _ (routed _ (.tail _ (.head _)))
  · intro hop hselector τ link config args w hempty
    refine perform_routed link config args hselector hop w ?_
    intro r hr
    rw [hempty] at hr
    cases hr

/-- An XPath expression is looked up as CSS. -/
theorem setSelectize_looks_up_xpath :
    Snippet.isXPath "//div" = true ∧
    ∃ code, (setSelectize.perform (Browsing.session fullLink.traced .usual) divArguments
        freshWorld).2.session.far.2
        = [.evaluate "T" (Snippet.predicate (.presence "//div")) .bool,
          .evaluate "T" [.code code] .any] ∧
      Text.contains code ("document.querySelector(" ++ Quoted.literal "//div" ++ ")") = true ∧
      ¬ Snippet.Routed (setSelectize.Says .usual divArguments) [.code code] :=
  ⟨by decide, Snippet.control "//div" "x", setSelectize_asks_div, Snippet.control_looks_up _ _,
    Snippet.control_not_routed _ _⟩

end Operation

end PageScript
