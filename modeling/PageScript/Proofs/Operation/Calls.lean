import PageScript.Operation.Performing
import PageScript.Proofs.Run.Keeping

/-!
# The calls of an operation

An action makes calls from a set that is known before it is done (`Action.mayMake`).  What these
calls keep, the action keeps, and it fails as they fail or for a reason of its own
(`Action.perform_within`).  Whatever an operation is given, the call that stops a session is not
among those of its action: only a run stops its session.
-/

namespace PageScript

/-! ## Doing -/

variable {σ α : Type} {s : Session σ} {P : σ → Prop} {E : Error → Prop}

/-- The call keeps a property of the session. -/
def Call.Preserves (s : Session σ) (P : σ → Prop) (c : Call) : Prop :=
  ∀ x, P x → P (s.perform c x).after

/-- The call keeps a property of the session, and fails with errors of a kind. -/
def Call.Within (s : Session σ) (P : σ → Prop) (E : Error → Prop) (c : Call) : Prop :=
  ∀ x, P x → FailsWith E (s.perform c x).result ∧ P (s.perform c x).after

theorem Call.Preserves.within {c : Call} (h : c.Preserves s P) : c.Within s P fun _ => True :=
  fun x hx => ⟨fun _ _ => trivial, h x hx⟩

namespace Doing

/-- The action keeps a property of the session. -/
abbrev Preserves (P : σ → Prop) (a : Doing σ α) : Prop := Keeps (fun w => P w.session) a

/-- The action keeps a property of the session, and fails with errors of a kind. -/
abbrev Within (P : σ → Prop) (E : Error → Prop) (a : Doing σ α) : Prop :=
  Confined (fun w => P w.session) E a

theorem outside_within (action : Taking α) : Within P E (outside action) :=
  fun _ h => ⟨.of_ok _, h⟩

theorem outside_preserves (action : Taking α) : Preserves P (outside action) := fun _ h => h

theorem call_within {c : Call} (h : c.Within s P E) : Within P E (call s c) :=
  fun w hw => h w.session hw

theorem call_preserves {c : Call} (h : c.Preserves s P) : Preserves P (call s c) :=
  fun w hw => h w.session hw

/-- What single calls are confined to, calls one after another are confined to. -/
theorem callAll_confined {W : World σ → Prop} {cs : List Call}
    (h : ∀ c ∈ cs, Confined W E (call s c)) : Confined W E (callAll s cs) :=
  match cs, h with
  | [], _ => .of_pure ()
  | c :: _, h => .of_bind (h c List.mem_cons_self) fun _ =>
    callAll_confined fun d hd => h d (List.mem_cons_of_mem c hd)

theorem callAll_within {cs : List Call} (h : ∀ c ∈ cs, c.Within s P E) : Within P E (callAll s cs) :=
  callAll_confined fun c hc => call_within (h c hc)

end Doing

/-! ## Actions -/

namespace Action

/-- The calls that an action may make. -/
def mayMake : Action → Call → Prop
  | .calls cs, c => c ∈ cs
  | .visit url _ _, c =>
    c = .go url ∨
      ∃ selector d, c = .waitFor (.visible selector) d ∨ c = .waitFor (.presence selector) d
  | .setControl selector text, c =>
    (∃ d, c = .waitFor (.presence selector) d) ∨
      c = .executeScript (Snippet.setControl selector text)
  | .spread selector code, c =>
    (∃ d, c = .waitFor (.presence selector) d) ∨ c = .count selector ∨
      ∃ i, ∃ x ∈ code.toList, c = .setValueAt selector i (String.singleton x)
  | .picture _, c => ∃ path, c = .screenshot path
  | .showLog, c => c = .consoleLog
  | .closeAlert, c => c = .alertText ∨ c = .dismissAlert
  | .assert a, c => c ∈ a.first.toList ∨ c = a.question
  | .pause _, _ | .say _, _ => False

/-- What an action waits for behind opening an address is read, or fails with errors of a kind. -/
def WaitsWith (E : Error → Prop) : Action → Prop
  | .visit _ visible presence => FailsWith E visible ∧ FailsWith E presence
  | _ => True

open Doing

theorem spreadFrom_within {selector : String} : ∀ (i : Nat) {cs : List Char},
    (∀ i, ∀ x ∈ cs, (Call.setValueAt selector i (String.singleton x)).Within s P E) →
    Within P E (spreadFrom s selector i cs)
  | _, [], _ => .of_pure ()
  | i, x :: _, h => .of_bind (call_within (h i x List.mem_cons_self)) fun _ =>
    spreadFrom_within (i + 1) fun j y hy => h j y (List.mem_cons_of_mem x hy)

theorem waitIf_within {condition : String → Condition}
    (h : ∀ selector d, (Call.waitFor (condition selector) d).Within s P E)
    {selector : Except Error (Option String)} (hselector : FailsWith E selector) :
    Within P E (waitIf s condition selector) := by
  match selector, hselector with
  | .error e, hselector => exact .of_throw (hselector e rfl)
  | .ok none, _ => exact .of_pure ()
  | .ok (some selector), _ => exact call_within (h _ _)

/-- What a control says is only judged as a failure of the action. -/
theorem judgeControl_fails (selector text : String) (answer : Value) :
    FailsWith (fun e => ∃ t, e = .actionFailed t) (judgeControl selector text answer) := by
  unfold judgeControl
  split
  · exact .of_ok ()
  · exact .of_error ⟨_, rfl⟩
  · exact .of_error ⟨_, rfl⟩

theorem settle_within {selector : String}
    (h : ∀ d, (Call.waitFor (.presence selector) d).Within s P E) :
    Within P E (callAll s [settle s.config selector]) := by
  refine callAll_within fun c hc => ?_
  rw [List.mem_singleton.mp hc]
  exact h _

section

-- what an action complains of itself is of the kind
variable (hown : ∀ e : Error, e.isUnknown = false → E e)

include hown

theorem check_confined {W : World σ → Prop} (a : Assertion)
    (hfirst : ∀ c ∈ a.first.toList, Confined W E (call s c))
    (hquestion : Confined W E (call s a.question)) : Confined W E (check s a) := by
  refine .of_bind (callAll_confined hfirst) fun _ => .of_bind hquestion fun reply => ?_
  cases a.complaint? reply with
  | none => exact .of_pure ()
  | some text => exact .of_throw (hown _ rfl)

/-- An action keeps what its calls keep, and fails as they fail or for a reason of its own. -/
theorem perform_within (a : Action) (hwaits : a.WaitsWith E)
    (h : ∀ c, a.mayMake c → c.Within s P E) : Within P E (a.perform s) := by
  cases a with
  | calls cs => exact callAll_within h
  | visit url visible presence =>
    exact .of_bind (call_within (h _ (.inl rfl))) fun _ =>
      .of_bind (waitIf_within (fun _ _ => h _ (.inr ⟨_, _, .inl rfl⟩)) hwaits.1) fun _ =>
        waitIf_within (fun _ _ => h _ (.inr ⟨_, _, .inr rfl⟩)) hwaits.2
  | setControl selector text =>
    refine .of_bind (settle_within fun d => h _ (.inl ⟨d, rfl⟩)) fun _ =>
      .of_bind (call_within (h _ (.inr rfl))) fun answer => ?_
    cases hjudge : judgeControl selector text answer with
    | ok _ => exact .of_pure ()
    | error e =>
      obtain ⟨_, rfl⟩ := judgeControl_fails selector text answer e hjudge
      exact .of_throw (hown _ rfl)
  | spread selector code =>
    refine .of_bind (settle_within fun d => h _ (.inl ⟨d, rfl⟩)) fun _ =>
      .of_bind (call_within (h _ (.inr (.inl rfl)))) fun fields => .of_guard (hown _ rfl) ?_
    exact spreadFrom_within 0 fun i x hx => h _ (.inr (.inr ⟨i, x, hx, rfl⟩))
  | pause d => exact outside_within _
  | picture template =>
    exact .of_bind (outside_within _) fun now => call_within (h _ ⟨_, rfl⟩)
  | showLog => exact .of_bind (call_within (h _ rfl)) fun lines => outside_within _
  | say text => exact outside_within _
  | closeAlert =>
    refine .of_bind (call_within (h _ (.inl rfl))) fun text => ?_
    split
    · exact call_within (h _ (.inr rfl))
    · exact .of_pure ()
  | assert a =>
    exact check_confined hown a (fun c hc => call_within (h c (.inl hc))) (call_within (h _ (.inr rfl)))

end

theorem waitsWith_true (a : Action) : a.WaitsWith fun _ => True := by
  cases a with
  | visit => exact ⟨fun _ _ => trivial, fun _ _ => trivial⟩
  | _ => trivial

end Action

/-! ## Operations -/

/-- Whatever is read has a property. -/
def Yields {α : Type} (p : α → Prop) (r : Except Error α) : Prop := ∀ x, r = .ok x → p x

namespace Yields

variable {α β : Type} {p : α → Prop} {q : β → Prop}

theorem of_pure {x : α} (h : p x) : Yields p (pure x) := by
  intro y hy
  cases hy
  exact h

theorem of_throw (e : Error) : Yields p (throw e) := nofun

/-- What is read first has a property that matters for the rest. -/
theorem of_both {r : Except Error β} {f : β → Except Error α} (hr : Yields q r)
    (hf : ∀ x, q x → Yields p (f x)) : Yields p (r >>= f) := by
  cases r with
  | error e => exact nofun
  | ok x => exact hf x (hr x rfl)

theorem of_bind {r : Except Error β} {f : β → Except Error α} (h : ∀ x, Yields p (f x)) :
    Yields p (r >>= f) :=
  of_both (q := fun _ => True) (fun _ _ => trivial) fun x _ => h x

end Yields

namespace Action

/-- Every call that the action may make has a property. -/
def Makes (Q : Call → Prop) (a : Action) : Prop := ∀ c, a.mayMake c → Q c

section

variable {Q : Call → Prop}

theorem makes_call {c : Call} (h : Q c) : Makes Q (.calls [c]) := by
  intro d hd
  rwa [List.mem_singleton.mp hd]

theorem makes_pair {c d : Call} (hc : Q c) (hd : Q d) : Makes Q (.calls [c, d]) := by
  intro e he
  rcases List.mem_cons.mp he with rfl | he
  · exact hc
  · rwa [List.mem_singleton.mp he]

theorem makes_assert {a : Assertion} (hfirst : ∀ c ∈ a.first.toList, Q c)
    (hquestion : Q a.question) : Makes Q (.assert a) := by
  rintro c (hc | rfl)
  · exact hfirst c hc
  · exact hquestion

/-- An assertion that asks at once. -/
theorem makes_ask {a : Assertion} (hfirst : a.first = none) (hquestion : Q a.question) :
    Makes Q (.assert a) :=
  makes_assert (by rw [hfirst]; exact nofun) hquestion

variable (config : Config) (args : Arguments)

theorem waiting_makes (timeoutAt : Nat) {condition : Except Error Condition}
    (h : Yields (fun c => ∀ d, Q (.waitFor c d)) condition) :
    Yields (Makes Q) (waiting config args timeoutAt condition) :=
  .of_both h fun _ hc => .of_bind fun d => .of_pure (makes_call (hc d))

-- waiting for an element in front has the property
variable (hpresence : ∀ selector d, Q (.waitFor (.presence selector) d))

include hpresence

theorem settled_makes {call : String → Except Error Call} (h : ∀ s, Yields Q (call s)) :
    Yields (Makes Q) (settled config args call) :=
  .of_bind fun s => .of_both (h s) fun _ hc => .of_pure (makes_pair (hpresence s _) hc)

theorem filling_makes (clear : Bool)
    (h : Yields (fun pairs => ∀ pair ∈ pairs, ∀ writing, Q (.setValue pair.1 pair.2 writing))
      (rows args)) :
    Yields (Makes Q) (filling config args clear) := by
  refine .of_both h fun pairs hpairs => .of_pure fun c hc => ?_
  obtain ⟨⟨s, v⟩, hmem, hc⟩ := List.mem_flatMap.mp hc
  exact makes_pair (hpresence s _) (hpairs (s, v) hmem _) c hc

theorem assertingVisible_makes (wanted : Bool) (hquestion : ∀ s, Q (.isDisplayed s)) :
    Yields (Makes Q) (assertingVisible config args wanted) := by
  refine .of_bind fun s => .of_bind fun d => .of_pure (makes_assert (fun c hc => ?_) (hquestion s))
  rw [List.mem_singleton.mp hc]
  exact hpresence s d

variable (hvisible : ∀ selector d, Q (.waitFor (.visible selector) d))

include hvisible

theorem settleAs_makes (selector : String) (way : Option String) :
    Yields Q (settleAs config selector way) := by
  unfold settleAs
  split
  · exact .of_pure (hvisible selector _)
  · exact .of_pure (hpresence selector _)
  · exact .of_pure (hpresence selector _)
  · exact .of_throw _

theorem asserting_makes (name : String) {assertion : Call → String → String → Assertion}
    (hfirst : ∀ c s t, (assertion c s t).first = some c)
    (hquestion : ∀ c s t, Q (assertion c s t).question) :
    Yields (Makes Q) (asserting config args name assertion) := by
  refine .of_bind fun s => .of_bind fun t => .of_bind fun way => ?_
  refine .of_both (settleAs_makes config hpresence hvisible s way) fun c hc => .of_pure ?_
  refine makes_assert (fun d hd => ?_) (hquestion c s t)
  rw [hfirst] at hd
  rwa [List.mem_singleton.mp hd]

end

variable (config : Config) (args : Arguments)

/-- No operation stops the session, whatever it is given. -/
theorem ofOperation_neverStops (op : Operation) :
    Yields (Makes (· ≠ .stop)) (ofOperation config op args) := by
  have presence : ∀ selector d, Call.waitFor (.presence selector) d ≠ .stop := nofun
  have visible : ∀ selector d, Call.waitFor (.visible selector) d ≠ .stop := nofun
  cases op with
  | go | clickAll | js | scrollBrowser | switchToWindow | newWindow =>
    exact .of_bind fun _ => .of_pure (makes_call nofun)
  | back | forward | refreshPage | showCursor | showKeys | closeWindow | acceptAlert
  | dismissAlert =>
    exact .of_pure (makes_call nofun)
  | goto => exact .of_bind fun _ => .of_pure (by rintro _ (rfl | ⟨_, _, rfl | rfl⟩) <;> exact nofun)
  | click | clear | moveTo | hover =>
    exact settled_makes config args presence fun _ => .of_pure nofun
  | setSelectByText | sendKey | scrollToElement =>
    exact settled_makes config args presence fun _ => .of_bind fun _ => .of_pure nofun
  | setValue =>
    exact settled_makes config args presence fun _ => .of_bind fun _ => .of_bind fun _ =>
      .of_bind fun _ => .of_bind fun _ => .of_pure nofun
  | setValues | fill => exact filling_makes config args presence _ fun _ _ => nofun
  | setSelectize =>
    exact .of_bind fun _ => .of_bind fun _ => .of_pure (by rintro _ (⟨_, rfl⟩ | rfl) <;> exact nofun)
  | fillOtp =>
    exact .of_bind fun _ => .of_bind fun _ =>
      .of_pure (by rintro _ (⟨_, rfl⟩ | rfl | ⟨_, _, _, rfl⟩) <;> exact nofun)
  | wait => exact .of_bind fun _ => .of_pure fun _ => False.elim
  | waitForPresence | waitForVisible | waitForInvisible | waitForClickable | waitForKo | waitForText
  | waitForTextInValue | waitForValue | waitForTitle | waitForUrl | waitForOpacity | waitForAlert =>
    exact waiting_makes config args _ fun _ _ => nofun
  | screenshot => exact .of_bind fun _ => .of_pure (by rintro _ ⟨_, rfl⟩; exact nofun)
  | getLog => exact .of_pure (by rintro _ rfl; exact nofun)
  | log => exact .of_pure fun _ => False.elim
  | closeAlert => exact .of_pure (by rintro _ (rfl | rfl) <;> exact nofun)
  | assertExists | assertFound | assertNotFound | assertUrl | assertTitle | assertTextInPage
  | assertTextNotInPage | assertChecked | assertNotChecked | assertTextInLog | assertTextNotInLog
  | assertJsErrors =>
    exact .of_bind fun _ => .of_pure (makes_ask rfl nofun)
  | assertAlertPresent | assertAlertNotPresent => exact .of_pure (makes_ask rfl nofun)
  | assertVisible | assertNotVisible => exact assertingVisible_makes config args presence _ nofun
  | assertValueOfElement | assertValueOfElements | assertTextInElement | assertTextInElements
  | assertElementContainsText | assertElementHasClass | assertElementNotHasClass =>
    exact asserting_makes config args presence visible _ (fun _ _ _ => rfl) fun _ _ _ => nofun
  | assertElementCount =>
    exact .of_bind fun _ => .of_bind fun _ => .of_pure (makes_ask rfl nofun)
  | assertJsErrorsCount =>
    unfold ofOperation
    dsimp only
    cases args.param? 0 "count" with
    | none => exact .of_pure (makes_ask rfl nofun)
    | some v => exact .of_bind fun _ => .of_pure (makes_ask rfl nofun)

end Action

namespace Operation

open Doing

/-- An operation keeps what the calls of its action keep, and fails as they fail, because its
arguments are unfit, or for a reason of its own. -/
theorem perform_within (hown : ∀ e : Error, e.isUnknown = false → E e) {op : Operation}
    {args : Arguments} (herrors : FailsWith E (Action.ofOperation s.config op args))
    (h : Yields (fun a => a.WaitsWith E ∧ ∀ c, a.mayMake c → c.Within s P E)
      (Action.ofOperation s.config op args)) : Within P E (op.perform s args) := by
  refine .of_bind (fun _ hw => ⟨.of_ok _, hw⟩) fun status => .of_guard (hown _ rfl) ?_
  cases haction : Action.ofOperation s.config op args with
  | error e => exact .of_throw (herrors e haction)
  | ok action =>
    obtain ⟨hwaits, hcalls⟩ := h action haction
    exact action.perform_within hown hwaits hcalls

/-- What the calls of its action keep, an operation keeps. -/
theorem perform_preserves_of {op : Operation} {args : Arguments}
    (h : Yields (fun a => ∀ c, a.mayMake c → c.Preserves s P) (Action.ofOperation s.config op args)) :
    Preserves P (op.perform s args) := by
  refine (perform_within (fun _ _ => trivial) (fun _ _ => trivial) fun action haction => ?_).keeps
  exact ⟨action.waitsWith_true, fun c hc => (h action haction c hc).within⟩

/-- What every call but stopping keeps, every operation keeps. -/
theorem perform_preserves (h : ∀ c : Call, c ≠ .stop → c.Preserves s P) (op : Operation)
    (args : Arguments) : Preserves P (op.perform s args) := by
  refine perform_preserves_of fun action haction c hc => h c ?_
  exact Action.ofOperation_neverStops s.config args op action haction c hc

/-- An operation that does not use the session leaves it alone. -/
theorem perform_preserves_apart {op : Operation} (h : op.needsSession = false) (args : Arguments) :
    Preserves P (op.perform s args) := by
  refine perform_preserves_of ?_
  cases op with
  | wait => exact .of_bind fun _ => .of_pure fun _ => False.elim
  | log => exact .of_pure fun _ => False.elim
  | _ => cases h

/-- An operation that uses the session refuses a stopped one. -/
theorem perform_stopped {op : Operation} (h : op.needsSession = true) (args : Arguments)
    {w : World σ} (hw : s.status w.session = .stopped) :
    op.perform s args w = (.error .sessionStopped, w) := by
  have looked : (status s : Doing σ Status) w = (.ok .stopped, w) := by
    rw [← hw]
    rfl
  rw [perform, Lockstep.bind_ok looked, h]
  rfl

/-- Where the session can be used, an operation whose arguments are unfit does nothing. -/
theorem perform_unfit {op : Operation} {args : Arguments} {e : Error}
    (h : Action.ofOperation s.config op args = .error e) {w : World σ}
    (hw : s.status w.session = .running) : op.perform s args w = (.error e, w) := by
  have looked : (status s : Doing σ Status) w = (.ok .running, w) := by
    rw [← hw]
    rfl
  rw [perform, Lockstep.bind_ok looked, h]
  simp only [reduceCtorEq, decide_false, Bool.and_false, Bool.false_eq_true, if_false]
  rfl

/-- An operation does its action where the session can be used. -/
theorem perform_running {op : Operation} {args : Arguments} {action : Action}
    (h : Action.ofOperation s.config op args = .ok action) {w : World σ}
    (hw : s.status w.session = .running) : op.perform s args w = action.perform s w := by
  have looked : (status s : Doing σ Status) w = (.ok .running, w) := by
    rw [← hw]
    rfl
  rw [perform, Lockstep.bind_ok looked, h]
  simp

end Operation

end PageScript
