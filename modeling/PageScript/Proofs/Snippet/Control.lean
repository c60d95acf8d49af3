import PageScript.Operation.Performing
import PageScript.Page.Basic
import PageScript.Proofs.Operation.Calls
import PageScript.Proofs.Run.Lockstep
import PageScript.Proofs.Text.Quoted

/-!
# The script of a replaced control

The script that sets a replaced control is a template in which the word SELECTOR is replaced by the
selector as a string literal, and then the word TEXT by the text as one.  The first literal is part
of the text that the second replacement goes through.  So the script is the template with the two
literals in their places exactly if the selector does not hold the word TEXT
(`Snippet.setControl_eq_iff`), and only then is it what the operation passes to the page
(`Operation.setSelectize_script_iff`).
-/

namespace PageScript

namespace Snippet

/-! ## The template -/

/-- The template up to the place of the selector. -/
def controlFront : String := lines
  ["(() => \x7b",
   "    const el = document.querySelector("]

/-- The template between the places of the selector and of the text. -/
def controlMiddle : String := lines
  [");",
   "    const s = el && el.selectize;",
   "    if (!s) return 'no_selectize';",
   "    const text = "]

/-- The template behind the place of the text. -/
def controlBack : String := lines
  [";",
   "    const label = s.settings.labelField;",
   "    const key = Object.keys(s.options).find((k) => String(s.options[k][label]) === text);",
   "    if (key !== undefined) \x7b s.setValue(key); return 'ok'; \x7d",
   "    if (s.settings.create) \x7b s.createItem(text); return 'ok'; \x7d",
   "    return 'option_not_found';",
   "\x7d)()"]

/-- The template with a selector and a text in their places, as string literals. -/
def control (selector text : String) : String :=
  controlFront ++ Quoted.literal selector ++ controlMiddle ++ Quoted.literal text ++ controlBack

theorem selectorLine : "    const el = document.querySelector(SELECTOR);"
    = "    const el = document.querySelector(" ++ ("SELECTOR" ++ ");") := by
  have front : "    const el = document.querySelector(SELECTOR);"
      = "    const el = document.querySelector(" ++ "SELECTOR);" := Text.ofList_cut rfl
  have back : "SELECTOR);" = "SELECTOR" ++ ");" := Text.ofList_cut rfl
  rw [front, back]

theorem textLine : "    const text = TEXT;" = "    const text = " ++ ("TEXT" ++ ";") := by
  have front : "    const text = TEXT;" = "    const text = " ++ "TEXT;" := Text.ofList_cut rfl
  have back : "TEXT;" = "TEXT" ++ ";" := Text.ofList_cut rfl
  rw [front, back]

theorem controlTemplate_eq :
    controlTemplate = controlFront ++ "SELECTOR" ++ (controlMiddle ++ "TEXT" ++ controlBack) := by
  simp only [controlTemplate, controlFront, controlMiddle, controlBack, lines, Text.join,
    selectorLine, textLine, String.append_assoc]

/-- The script of a control looks its selector up as CSS. -/
theorem control_looks_up (selector text : String) :
    Text.contains (control selector text)
      ("document.querySelector(" ++ Quoted.literal selector ++ ")") = true := by
  obtain ⟨before, hfront⟩ : ∃ before,
      controlFront = before ++ "document.querySelector(" := by
    have line : "    const el = document.querySelector("
        = "    const el = " ++ "document.querySelector(" := Text.ofList_cut rfl
    have lined : controlFront
        = "(() => \x7b" ++ "\n" ++ "    const el = document.querySelector(" := rfl
    rw [lined, line, ← String.append_assoc]
    exact ⟨_, rfl⟩
  obtain ⟨behind, hmiddle⟩ : ∃ behind, controlMiddle = ")" ++ behind := by
    have line : ");" = ")" ++ ";" := Text.ofList_cut rfl
    have lined : ∃ rest, controlMiddle = ");" ++ rest := by
      rw [controlMiddle, lines]
      exact ⟨_, String.append_assoc⟩
    obtain ⟨rest, lined⟩ := lined
    rw [lined, line, String.append_assoc]
    exact ⟨_, rfl⟩
  have cut : control selector text
      = before ++ ("document.querySelector(" ++ Quoted.literal selector ++ ")")
        ++ (behind ++ Quoted.literal text ++ controlBack) := by
    rw [control, hfront, hmiddle]
    simp only [String.append_assoc]
  rw [cut]
  exact Text.contains_between _ _ _

/-! ## Filling in the template -/

/-- A text in lines is searched line by line. -/
theorem contains_lines {part : String} (hsep : '\n' ∉ part.toList) (hpart : part.toList ≠ [])
    (ls : List String) : Text.contains (lines ls) part = ls.any fun l => Text.contains l part := by
  have newline : "\n" = String.singleton '\n' := rfl
  rw [lines, newline, Text.contains_join hsep hpart]

/-- The word SELECTOR does not stand in front of its place. -/
theorem front_without_selector : Text.contains (controlFront ++ "SELECTO") "SELECTOR" = false := by
  have line : "    const el = document.querySelector(SELECTO"
      = "    const el = document.querySelector(" ++ "SELECTO" := Text.ofList_cut rfl
  have whole : controlFront ++ "SELECTO"
      = lines ["(() => \x7b", "    const el = document.querySelector(SELECTO"] := by
    simp only [controlFront, lines, Text.join, String.append_assoc, line]
  rw [whole, contains_lines (by decide) (by decide)]
  simp only [List.any_cons, List.any_nil, Bool.or_false, Bool.or_eq_false_iff]
  and_intros <;> exact Text.contains_eq_false (by decide)

/-- The word SELECTOR does not stand behind its place. -/
theorem rest_without_selector :
    Text.contains (controlMiddle ++ "TEXT" ++ controlBack) "SELECTOR" = false := by
  have whole : controlMiddle ++ "TEXT" ++ controlBack
      = lines [");",
          "    const s = el && el.selectize;",
          "    if (!s) return 'no_selectize';",
          "    const text = TEXT;",
          "    const label = s.settings.labelField;",
          "    const key = Object.keys(s.options).find((k) => String(s.options[k][label]) === text);",
          "    if (key !== undefined) \x7b s.setValue(key); return 'ok'; \x7d",
          "    if (s.settings.create) \x7b s.createItem(text); return 'ok'; \x7d",
          "    return 'option_not_found';",
          "\x7d)()"] := by
    simp only [controlMiddle, controlBack, lines, Text.join, textLine, String.append_assoc]
  rw [whole, contains_lines (by decide) (by decide)]
  simp only [List.any_cons, List.any_nil, Bool.or_false, Bool.or_eq_false_iff]
  and_intros <;> exact Text.contains_eq_false (by decide)

/-- The word TEXT does not stand in front of the place of the selector. -/
theorem front_without_text : Text.contains controlFront "TEXT" = false := by
  rw [controlFront, contains_lines (by decide) (by decide)]
  simp only [List.any_cons, List.any_nil, Bool.or_false, Bool.or_eq_false_iff]
  and_intros <;> exact Text.contains_eq_false (by decide)

/-- The word TEXT does not stand between the place of the selector and its own. -/
theorem middle_without_text : Text.contains (controlMiddle ++ "TEX") "TEXT" = false := by
  have line : "    const text = TEX" = "    const text = " ++ "TEX" := Text.ofList_cut rfl
  have whole : controlMiddle ++ "TEX"
      = lines [");",
          "    const s = el && el.selectize;",
          "    if (!s) return 'no_selectize';",
          "    const text = TEX"] := by
    simp only [controlMiddle, lines, Text.join, String.append_assoc, line]
  rw [whole, contains_lines (by decide) (by decide)]
  simp only [List.any_cons, List.any_nil, Bool.or_false, Bool.or_eq_false_iff]
  and_intros <;> exact Text.contains_eq_false (by decide)

/-- The word TEXT does not stand behind its place. -/
theorem back_without_text : Text.contains controlBack "TEXT" = false := by
  rw [controlBack, contains_lines (by decide) (by decide)]
  simp only [List.any_cons, List.any_nil, Bool.or_false, Bool.or_eq_false_iff]
  and_intros <;> exact Text.contains_eq_false (by decide)

/-- The word SELECTOR is replaced in its place only. -/
theorem replace_selector (selector : String) :
    Text.replace "SELECTOR" (Quoted.literal selector) controlTemplate
      = controlFront ++ Quoted.literal selector ++ (controlMiddle ++ "TEXT" ++ controlBack) := by
  rw [controlTemplate_eq]
  exact Text.replace_holder (by decide) (by decide) front_without_selector rest_without_selector

/-- The script is the template with the literal of the text in its place and, in the place of the
selector, its literal in which the word TEXT is replaced, too. -/
theorem setControl_eq (selector text : String) :
    setControl selector text = controlFront
      ++ Text.replace "TEXT" (Quoted.literal text) (Quoted.literal selector) ++ controlMiddle
      ++ Quoted.literal text ++ controlBack := by
  have quote : '"' ∉ "TEXT".toList := by decide
  have holder : Text.replace "TEXT" (Quoted.literal text) (controlMiddle ++ "TEXT" ++ controlBack)
      = controlMiddle ++ Quoted.literal text ++ controlBack :=
    Text.replace_holder (by decide) (by decide) middle_without_text back_without_text
  rw [setControl, replace_selector, Quoted.literal_eq selector,
    Text.replace_between quote (by decide), Text.replace_of_not_contains front_without_text, holder]
  simp only [String.append_assoc]

/-- The two words are replaced in their places, and nothing else is touched, exactly if the selector
does not hold the word for the text. -/
theorem setControl_eq_iff (selector text : String) :
    setControl selector text = control selector text ↔ Text.contains selector "TEXT" = false := by
  rw [setControl_eq, control, ← Quoted.contains_literal (by decide) (by decide)]
  simp only [String.append_left_inj, String.append_right_inj]
  exact Text.replace_eq_self_iff (p := 'T') (n := '"') rfl String.toList_ofList (by decide)

end Snippet

/-! ## What the operation passes to the page -/

section

variable {σ : Type} (s : Session σ)

open Doing

/-- A last call, whose reply is only judged, leaves the session as it is, whatever comes of it. -/
theorem Doing.last_call {α : Type} (c : Call) {f : c.Reply → Doing σ α} (hf : ∀ x w, (f x w).2 = w)
    (w : World σ) : ((call s c >>= f) w).2.session = (s.perform c w.session).after := by
  cases hresult : (s.perform c w.session).result with
  | ok x =>
    have replied : call s c w = (.ok x, (call s c w).2) := Prod.ext hresult rfl
    rw [Lockstep.bind_ok replied, hf]
    rfl
  | error e =>
    have failed : call s c w = (.error e, (call s c w).2) := Prod.ext hresult rfl
    rw [Lockstep.bind_error failed]
    rfl

/-- Once the element is there, the script is run, and nothing else is done. -/
theorem Action.setControl_session (selector text : String) (w : World σ)
    (hwait : (s.perform (settle s.config selector) w.session).result = .ok ()) :
    ((Action.setControl selector text).perform s w).2.session
      = (s.perform (.executeScript (Snippet.setControl selector text))
          (s.perform (settle s.config selector) w.session).after).after := by
  have waited : call s (settle s.config selector) w
      = (.ok (), (call s (settle s.config selector) w).2) := Prod.ext hwait rfl
  have settled : callAll s [settle s.config selector] w
      = (.ok (), (call s (settle s.config selector) w).2) := by
    rw [callAll]
    exact Lockstep.bind_ok waited _
  rw [Action.perform, Lockstep.bind_ok settled]
  refine last_call s _ (fun answer w => ?_) _
  cases judgeControl selector text answer <;> rfl

namespace Operation

section

variable {args : Arguments} {selector text : String}
  (hselector : args.text 0 "selector" = .ok selector) (htext : args.text 1 "text" = .ok text)

include hselector htext

/-- The operation waits for the element, and runs the script. -/
theorem setSelectize_session (w : World σ) (hrunning : s.status w.session = .running)
    (hwait : (s.perform (.waitFor (.presence selector) s.config.timeout) w.session).result
      = .ok ()) :
    (setSelectize.perform s args w).2.session
      = (s.perform (.executeScript (Snippet.setControl selector text))
          (s.perform (.waitFor (.presence selector) s.config.timeout) w.session).after).after := by
  have action : Action.ofOperation s.config setSelectize args = .ok (.setControl selector text) := by
    simp only [Action.ofOperation, Action.selector, hselector, htext]
    rfl
  rw [perform_running action hrunning]
  exact Action.setControl_session s selector text w hwait

variable (w : World (σ × List Call)) (hrunning : s.status w.session.1 = .running)
  (hwait : (s.perform (Action.settle s.config selector) w.session.1).result = .ok ())

include hrunning hwait

theorem setSelectize_calls : (setSelectize.perform s.traced args w).2.session.2 = w.session.2
    ++ [Action.settle s.config selector, .executeScript (Snippet.setControl selector text)] := by
  rw [setSelectize_session s.traced hselector htext w hrunning hwait]
  exact List.append_assoc w.session.2 [_] [_]

/-- The script that the operation passes to the page once the element is there is the template with
the literals of the selector and the text in their places, exactly if the selector does not hold the
word TEXT.  Decoded, the literals are the selector and the text. -/
theorem setSelectize_script_iff :
    ∃ code, (setSelectize.perform s.traced args w).2.session.2 = w.session.2
        ++ [Action.settle s.config selector, .executeScript code] ∧
      (code = Snippet.control selector text ↔ Text.contains selector "TEXT" = false) ∧
      Quoted.decode? (Quoted.literal selector) = some selector ∧
      Quoted.decode? (Quoted.literal text) = some text :=
  ⟨Snippet.setControl selector text, setSelectize_calls s hselector htext w hrunning hwait,
    Snippet.setControl_eq_iff selector text, Quoted.decode?_literal selector,
    Quoted.decode?_literal text⟩

end

end Operation

end

/-! ## A page with one control -/

/-- A page with one replaced control, and nothing from outside. -/
def controlWorld (selector : String) : World (Page × List Call) :=
  ⟨(⟨false, "", "", "", [(selector, [⟨"", "", none, false, true, true, .zero false⟩])], [], [], [],
    .text "ok", []⟩, []), .still⟩

namespace Operation

/-- Quotes in the selector stay inside its literal. -/
theorem setSelectize_script_quoted :
    let page := Page.session .usual
    let args : Arguments := ⟨"set_selectize", [.text "[name=\"plan\"]", .text "TEXT"]⟩
    let w := controlWorld "[name=\"plan\"]"
    args.text 0 "selector" = .ok "[name=\"plan\"]" ∧ args.text 1 "text" = .ok "TEXT" ∧
      page.status w.session.1 = .running ∧
      (page.perform (Action.settle page.config "[name=\"plan\"]") w.session.1).result = .ok () ∧
      Text.contains "[name=\"plan\"]" "TEXT" = false ∧
      ∃ code, (setSelectize.perform page.traced args w).2.session.2
          = [Action.settle page.config "[name=\"plan\"]", .executeScript code] ∧
        code = Snippet.control "[name=\"plan\"]" "TEXT" := by
  intro page args w
  have hselector : args.text 0 "selector" = .ok "[name=\"plan\"]" := rfl
  have htext : args.text 1 "text" = .ok "TEXT" := rfl
  have hwait : (page.perform (Action.settle page.config "[name=\"plan\"]") w.session.1).result
      = .ok () := by rfl
  have apart : Text.contains "[name=\"plan\"]" "TEXT" = false := by decide +kernel
  obtain ⟨code, calls, hcode, -, -⟩ :=
    setSelectize_script_iff page hselector htext w rfl hwait
  exact ⟨hselector, htext, rfl, hwait, apart, code, calls, hcode.mpr apart⟩

/-- The word TEXT in the selector is replaced, too, and the quotes around the text end the literal of
the selector: the page looks for `#` and not for `#TEXT`. -/
theorem setSelectize_script_broken :
    let page := Page.session .usual
    let args : Arguments := ⟨"set_selectize", [.text "#TEXT", .text "x"]⟩
    let w := controlWorld "#TEXT"
    ∃ code, (setSelectize.perform page.traced args w).2.session.2
        = [Action.settle page.config "#TEXT", .executeScript code] ∧
      code = Snippet.controlFront ++ "\"#\"x\"\"" ++ Snippet.controlMiddle ++ "\"x\""
        ++ Snippet.controlBack ∧
      code ≠ Snippet.control "#TEXT" "x" := by
  intro page args w
  have hwait : (page.perform (Action.settle page.config "#TEXT") w.session.1).result = .ok () := by
    rfl
  have hselector : args.text 0 "selector" = .ok "#TEXT" := rfl
  have htext : args.text 1 "text" = .ok "x" := rfl
  have calls := setSelectize_calls page hselector htext w rfl hwait
  have replaced : Text.replace "TEXT" (Quoted.literal "x") (Quoted.literal "#TEXT")
      = "\"#\"x\"\"" := by
    decide +kernel
  have holds : Text.contains "#TEXT" "TEXT" ≠ false := by decide
  have text : Quoted.literal "x" = "\"x\"" := by decide
  refine ⟨_, calls, ?_, mt (Snippet.setControl_eq_iff _ _).mp holds⟩
  rw [Snippet.setControl_eq, replaced, text]

end Operation

end PageScript
