import PageScript.Proofs.Operation.Calls
import PageScript.Text.Pieces

/-!
# What assertions do

The operations whose names begin with `assert_` are assertions, all of them and whatever they are
given.  The calls of an assertion only look at the page (`Assertion.Inspects`), so an assertion keeps
what such calls keep (`Operation.assertion_keeps`).
-/

namespace PageScript

/-- The operation is an assertion. -/
def Operation.isAssertion (op : Operation) : Bool :=
  Text.startsWith "assert_".toList op.name.toList

example : (Operation.all.filter Operation.isAssertion).length = 25 := by decide +kernel

/-- What the assertion waits for and asks only looks at the page. -/
structure Assertion.Inspects (a : Assertion) : Prop where
  first : ∀ c ∈ a.first.toList, c.isReading = true
  question : a.question.isReading = true

namespace Action

variable (config : Config) (args : Arguments)

/-- The action is an assertion that only looks at the page. -/
abbrev Inspects (action : Action) : Prop := ∃ a : Assertion, action = .assert a ∧ a.Inspects

/-- An assertion that asks at once. -/
theorem inspects_ask {a : Assertion} (hfirst : a.first = none) (hquestion : a.question.isReading = true) :
    Inspects (.assert a) :=
  ⟨a, rfl, ⟨by rw [hfirst]; exact nofun, hquestion⟩⟩

theorem assertingVisible_inspects (wanted : Bool) :
    Yields Inspects (assertingVisible config args wanted) := by
  refine .of_bind fun s => .of_bind fun d => .of_pure ⟨_, rfl, fun c hc => ?_, rfl⟩
  rw [List.mem_singleton.mp hc]
  rfl

theorem asserting_inspects (name : String) {assertion : Call → String → String → Assertion}
    (hfirst : ∀ c s t, (assertion c s t).first = some c)
    (hquestion : ∀ c s t, (assertion c s t).question.isReading = true) :
    Yields Inspects (asserting config args name assertion) := by
  refine .of_bind fun s => .of_bind fun t => .of_bind fun way => ?_
  have waits : Yields (fun c => c.isReading = true) (settleAs config s way) :=
    settleAs_makes config (fun _ _ => rfl) (fun _ _ => rfl) s way
  refine .of_both waits fun c hc => .of_pure ⟨_, rfl, fun d hd => ?_, hquestion c s t⟩
  rw [hfirst] at hd
  rwa [List.mem_singleton.mp hd]

/-- Whatever it is given, an assertion asserts and only looks at the page. -/
theorem ofOperation_inspects {op : Operation} (h : op.isAssertion = true) :
    Yields Inspects (ofOperation config op args) := by
  cases op with
  | assertExists | assertFound | assertNotFound | assertUrl | assertTitle | assertTextInPage
  | assertTextNotInPage | assertChecked | assertNotChecked | assertTextInLog | assertTextNotInLog
  | assertJsErrors =>
    exact .of_bind fun _ => .of_pure (inspects_ask rfl rfl)
  | assertAlertPresent | assertAlertNotPresent => exact .of_pure (inspects_ask rfl rfl)
  | assertVisible | assertNotVisible => exact assertingVisible_inspects config args _
  | assertValueOfElement | assertValueOfElements | assertTextInElement | assertTextInElements
  | assertElementContainsText | assertElementHasClass | assertElementNotHasClass =>
    exact asserting_inspects config args _ (fun _ _ _ => rfl) fun _ _ _ => rfl
  | assertElementCount =>
    exact .of_bind fun _ => .of_bind fun _ => .of_pure (inspects_ask rfl rfl)
  | assertJsErrorsCount =>
    unfold ofOperation
    dsimp only
    cases args.param? 0 "count" with
    | none => exact .of_pure (inspects_ask rfl rfl)
    | some v => exact .of_bind fun _ => .of_pure (inspects_ask rfl rfl)
  | _ => exact absurd h (by decide +kernel)

end Action

namespace Operation

open Doing

variable {σ : Type} {s : Session σ} {W : World σ → Prop}

/-- What every call keeps that only looks at the page, an assertion keeps, whether it holds or
not. -/
theorem assertion_keeps (hcall : ∀ c : Call, c.isReading = true → Keeps W (call s c))
    {op : Operation} (h : op.isAssertion = true) (args : Arguments) :
    Keeps W (op.perform s args) := by
  refine .of_bind (fun _ hw => hw) fun status => .of_guard ?_
  cases haction : Action.ofOperation s.config op args with
  | error e => exact .of_throw e
  | ok action =>
    obtain ⟨a, rfl, inspects⟩ := Action.ofOperation_inspects s.config args h action haction
    exact (Action.check_confined (fun _ _ => trivial) a
      (fun c hc => (hcall c (inspects.first c hc)).confined) (hcall _ inspects.question).confined).keeps

end Operation

end PageScript
