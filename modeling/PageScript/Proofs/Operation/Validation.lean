import PageScript.Page.Basic
import PageScript.Proofs.Operation.Calls

/-!
# Arguments are judged before anything is done

An operation may complain of its arguments itself, or pass on the complaint of a call.  When it
complains itself, all that it has done is to look at the page: its arguments are read as an action
first, and what an action is made of either only looks at the page or never complains
(`Action.perform_validates`).

Opening an address and waiting for elements on it is different.  What to wait for is read when the
address has been opened, so an unfit one is complained of too late
(`Operation.complains_having_looked_iff`).
-/

namespace PageScript

/-- A call that has been made. -/
structure Deed where
  call : Call
  failed : Bool
deriving DecidableEq

/-- A session whose state also keeps what has been done so far, oldest first. -/
def Session.recorded {σ : Type} (s : Session σ) : Session (σ × List Deed) where
  config := s.config
  status x := s.status x.1
  perform c x :=
    let outcome := s.perform c x.1
    ⟨outcome.result, outcome.notes, outcome.after, x.2 ++ [⟨c, !outcome.result.isOk⟩]⟩

/-- The page has only been looked at. -/
def Looked (deeds : List Deed) : Prop := ∀ d ∈ deeds, d.call.isReading = true

/-- An argument is complained of, and not by a call. -/
structure Complains {α : Type} (r : Except Error α) (deeds : List Deed) : Prop where
  argument : ∃ text, r = .error (.argument text)
  succeeded : ∀ d ∈ deeds, d.failed = false

namespace Doing

variable {σ α β : Type}

/-- The action never complains of an argument itself. -/
def Content (a : Doing (σ × List Deed) α) : Prop := ∀ w, ¬ Complains (a w).1 (a w).2.session.2

/-- The action only looks at the page. -/
abbrev Looks (a : Doing (σ × List Deed) α) : Prop := Preserves (fun x => Looked x.2) a

/-- When the action complains of an argument itself, it has only looked at the page. -/
def Validates (a : Doing (σ × List Deed) α) : Prop :=
  ∀ w, Looked w.session.2 → Complains (a w).1 (a w).2.session.2 → Looked (a w).2.session.2

/-! ## Actions that never complain -/

namespace Content

theorem of_pure (x : α) : Content (σ := σ) (pure x) := fun _ h => nomatch h.argument.choose_spec

theorem of_throw {e : Error} (h : ∀ text, e ≠ .argument text) :
    Content (σ := σ) (α := α) (throw e) := by
  rintro w ⟨⟨text, hthrow⟩, -⟩
  exact h text (Except.error.inj hthrow)

theorem of_bind {a : Doing (σ × List Deed) α} {f : α → Doing (σ × List Deed) β} (ha : Content a)
    (hf : ∀ x, Content (f x)) : Content (a >>= f) := by
  intro w hw
  obtain ⟨r, t, h⟩ : ∃ r t, a w = (r, t) := ⟨_, _, rfl⟩
  cases r with
  | ok x =>
    rw [Lockstep.bind_ok h] at hw
    exact hf x t hw
  | error e =>
    rw [Lockstep.bind_error h] at hw
    obtain ⟨⟨text, he⟩, hsucceeded⟩ := hw
    refine ha w ?_
    rw [h]
    exact ⟨⟨text, congrArg Except.error (Except.error.inj he)⟩, hsucceeded⟩

theorem outside (action : Taking α) : Content (σ := σ) (Doing.outside action) :=
  fun _ h => nomatch h.argument.choose_spec

variable {s : Session σ}

/-- A call that fails has failed, whatever it complains of. -/
theorem call (c : Call) : Content (Doing.call s.recorded c) := by
  rintro w ⟨⟨text, hresult⟩, hsucceeded⟩
  have last := hsucceeded _ (List.mem_append_right w.session.2 (List.mem_singleton_self _))
  have result : (s.perform c w.session.1).result = .error (.argument text) := hresult
  rw [result] at last
  cases last

theorem callAll : ∀ cs : List Call, Content (Doing.callAll s.recorded cs)
  | [] => of_pure ()
  | c :: cs => of_bind (call c) fun _ => callAll cs

theorem spreadFrom (selector : String) :
    ∀ (i : Nat) (cs : List Char), Content (Action.spreadFrom s.recorded selector i cs)
  | _, [] => of_pure ()
  | i, _ :: cs => of_bind (call _) fun _ => spreadFrom selector (i + 1) cs

theorem waitIf (condition : String → Condition) {selector : Except Error (Option String)}
    (h : FailsWith (fun _ => False) selector) :
    Content (Action.waitIf s.recorded condition selector) := by
  match selector, h with
  | .error e, h => exact (h e rfl).elim
  | .ok none, _ => exact of_pure ()
  | .ok (some selector), _ => exact call _

theorem check (a : Assertion) : Content (Action.check s.recorded a) := by
  refine of_bind (callAll _) fun _ => of_bind (call _) fun reply => ?_
  cases a.complaint? reply with
  | none => exact of_pure ()
  | some text => exact of_throw nofun

end Content

/-! ## Actions that complain in time -/

theorem looks_call {s : Session σ} {c : Call} (h : c.isReading = true) :
    Looks (call s.recorded c) := by
  intro w hw d hd
  rcases List.mem_append.mp hd with hd | hd
  · exact hw d hd
  · rw [List.mem_singleton.mp hd]
    exact h

namespace Validates

theorem of_content {a : Doing (σ × List Deed) α} (h : Content a) : Validates a :=
  fun w _ hw => absurd hw (h w)

theorem of_looks {a : Doing (σ × List Deed) α} (h : Looks a) : Validates a :=
  fun w hw _ => h w hw

/-- What follows a look at the page may complain. -/
theorem of_bind {a : Doing (σ × List Deed) α} {f : α → Doing (σ × List Deed) β} (ha : Looks a)
    (hf : ∀ x, Validates (f x)) : Validates (a >>= f) := by
  intro w hw hcomplains
  obtain ⟨r, t, h⟩ : ∃ r t, a w = (r, t) := ⟨_, _, rfl⟩
  have looked := ha w hw
  rw [h] at looked
  cases r with
  | ok x =>
    rw [Lockstep.bind_ok h] at hcomplains ⊢
    exact hf x t looked hcomplains
  | error e =>
    rw [Lockstep.bind_error h]
    exact looked

/-- A check in front may complain. -/
theorem of_guard {p : Prop} [Decidable p] {e : Error} {a : Doing (σ × List Deed) α}
    (h : Validates a) : Validates (if p then throw e >>= fun _ : PUnit => a else a) := by
  split
  · exact of_bind (.of_throw e) fun _ => h
  · exact h

end Validates

end Doing

/-! ## Actions -/

namespace Action

open Doing

variable {σ : Type} (s : Session σ)

/-- An action whose arguments are all read only complains of them when it has done no more than look
at the page. -/
theorem perform_validates (a : Action) (hwaits : a.WaitsWith fun _ => False) :
    Validates (a.perform s.recorded) := by
  cases a with
  | calls cs => exact .of_content (.callAll cs)
  | visit url visible presence =>
    exact .of_content (.of_bind (.call _) fun _ =>
      .of_bind (.waitIf _ hwaits.1) fun _ => .waitIf _ hwaits.2)
  | setControl selector text =>
    refine .of_content (.of_bind (.callAll _) fun _ => .of_bind (.call _) fun answer => ?_)
    cases hjudge : judgeControl selector text answer with
    | ok _ => exact .of_pure ()
    | error e =>
      obtain ⟨_, rfl⟩ := judgeControl_fails selector text answer e hjudge
      exact .of_throw nofun
  | spread selector code =>
    -- only here arguments are judged by what the page holds
    have settled : Looks (callAll s.recorded [settle s.recorded.config selector]) :=
      .of_bind (looks_call rfl) fun _ => .of_pure ()
    exact .of_bind settled fun _ => .of_bind (looks_call rfl) fun fields =>
      .of_guard (.of_content (.spreadFrom selector 0 code.toList))
  | pause d => exact .of_content (.outside _)
  | picture template => exact .of_content (.of_bind (.outside _) fun now => .call _)
  | showLog => exact .of_content (.of_bind (.call _) fun lines => .outside _)
  | say text => exact .of_content (.outside _)
  | closeAlert =>
    refine .of_content (.of_bind (.call _) fun text => ?_)
    split
    · exact .call _
    · exact .of_pure ()
  | assert a => exact .of_content (.check a)

variable (config : Config) (args : Arguments)

/-- Only opening an address and waiting for elements leaves arguments to be read. -/
theorem ofOperation_waits {E : Error → Prop} {op : Operation}
    (h : op = .goto → FailsWith E (args.text? 1 "wait_for_visible") ∧
      FailsWith E (args.text? 2 "wait_for_presence")) :
    Yields (fun a => a.WaitsWith E) (ofOperation config op args) := by
  cases op with
  | goto => exact .of_bind fun _ => .of_pure (h rfl)
  | back | forward | refreshPage | showCursor | showKeys | getLog | log | closeWindow | acceptAlert
  | dismissAlert | closeAlert | assertAlertPresent | assertAlertNotPresent => exact .of_pure trivial
  | go | clickAll | scrollBrowser | js | wait | screenshot | switchToWindow | newWindow
  | assertExists | assertFound | assertNotFound | assertUrl | assertTitle | assertTextInPage
  | assertTextNotInPage | assertChecked | assertNotChecked | assertTextInLog | assertTextNotInLog
  | assertJsErrors | setValues | fill =>
    exact .of_bind fun _ => .of_pure trivial
  | click | clear | moveTo | hover | setSelectByText | sendKey | scrollToElement | setValue
  | setSelectize | fillOtp | assertElementCount | assertVisible | assertNotVisible
  | waitForPresence | waitForVisible | waitForInvisible | waitForClickable | waitForKo
  | waitForText | waitForTextInValue | waitForValue | waitForTitle | waitForUrl | waitForOpacity
  | waitForAlert =>
    exact .of_bind fun _ => .of_bind fun _ => .of_pure trivial
  | assertValueOfElement | assertValueOfElements | assertTextInElement | assertTextInElements
  | assertElementContainsText | assertElementHasClass | assertElementNotHasClass =>
    exact .of_bind fun _ => .of_bind fun _ => .of_bind fun _ => .of_bind fun _ => .of_pure trivial
  | assertJsErrorsCount =>
    unfold ofOperation
    dsimp only
    cases args.param? 0 "count" with
    | none => exact .of_pure trivial
    | some v => exact .of_bind fun _ => .of_pure trivial

end Action

/-! ## A session that does what is asked -/

theorem Arguments.text?_complains (args : Arguments) (index : Nat) (name : String) :
    FailsWith (fun e => ∃ text, e = .argument text) (args.text? index name) := by
  unfold Arguments.text?
  cases args.param? index name with
  | none => exact .of_ok none
  | some v =>
    dsimp only
    cases v.scalarText with
    | none => exact .of_error ⟨_, rfl⟩
    | some s => exact .of_ok _

/-- A session that opens addresses and finds what is waited for, and does nothing else. -/
def Session.obliging : Session Unit where
  config := .usual
  status _ := .running
  perform
    | .go _, _ => ⟨.ok (), [], ()⟩
    | .waitFor _ _, _ => ⟨.ok (), [], ()⟩
    | _, _ => ⟨.error (.actionFailed "not done"), [], ()⟩

/-- What to wait for is complained of when the address has been opened. -/
theorem Action.visit_complains (url : String) {visible presence : Except Error (Option String)}
    (hvisible : FailsWith (fun e => ∃ text, e = .argument text) visible)
    (hpresence : FailsWith (fun e => ∃ text, e = .argument text) presence)
    (hunfit : ∀ v p, visible = .ok v → presence ≠ .ok p) (outside : Surroundings) :
    ∃ r w, (visit url visible presence).perform Session.obliging.recorded ⟨((), []), outside⟩
        = (r, w) ∧
      Complains r w.session.2 ∧ ¬ Looked w.session.2 := by
  -- whatever has been waited for, opening the address is among the deeds
  have acted {deeds : List Deed} : ¬ Looked (⟨.go url, false⟩ :: deeds) :=
    fun h => Bool.false_ne_true (h _ List.mem_cons_self)
  cases visible with
  | error e =>
    obtain ⟨text, rfl⟩ := hvisible e rfl
    exact ⟨_, ⟨((), [⟨.go url, false⟩]), outside⟩, rfl, ⟨⟨text, rfl⟩, by simp⟩, acted⟩
  | ok v =>
    cases presence with
    | ok p => exact absurd rfl (hunfit v p rfl)
    | error e =>
      obtain ⟨text, rfl⟩ := hpresence e rfl
      cases v with
      | none => exact ⟨_, ⟨((), [⟨.go url, false⟩]), outside⟩, rfl, ⟨⟨text, rfl⟩, by simp⟩, acted⟩
      | some selector =>
        refine ⟨_, ⟨((), [⟨.go url, false⟩,
          ⟨.waitFor (.visible selector) Config.usual.timeout, false⟩]), outside⟩, rfl,
          ⟨⟨text, rfl⟩, by simp⟩, acted⟩

/-! ## Operations -/

namespace Operation

open Doing

variable {σ : Type} {args : Arguments}

/-- An operation whose arguments are all read first only complains of them when it has done no more
than look at the page. -/
theorem perform_validates (s : Session σ) {op : Operation}
    (h : op = .goto → ∀ url, args.text 0 "url" = .ok url →
      FailsWith (fun _ => False) (args.text? 1 "wait_for_visible") ∧
        FailsWith (fun _ => False) (args.text? 2 "wait_for_presence")) :
    Validates (op.perform s.recorded args) := by
  refine .of_bind (fun w hw => hw) fun status => .of_guard ?_
  cases haction : Action.ofOperation s.recorded.config op args with
  | error e => exact .of_looks (.of_throw e)
  | ok action =>
    refine action.perform_validates s (Action.ofOperation_waits s.config args ?_ action haction)
    intro hgoto
    subst hgoto
    cases hurl : args.text 0 "url" with
    | ok url => exact h rfl url hurl
    | error e =>
      simp only [Action.ofOperation, hurl] at haction
      cases haction

/-- Of its own accord an operation complains of its arguments only when it has done no more than look
at the page, whatever the session, exactly if it does not open an address whose waiting is unfit. -/
theorem complains_having_looked_iff (op : Operation) (args : Arguments) :
    (∀ {σ : Type} (s : Session σ) (w : World (σ × List Deed)), w.session.2 = [] →
      Complains (op.perform s.recorded args w).1 (op.perform s.recorded args w).2.session.2 →
      Looked (op.perform s.recorded args w).2.session.2) ↔
    (op = .goto → ∀ url, args.text 0 "url" = .ok url →
      ∃ visible presence, args.text? 1 "wait_for_visible" = .ok visible ∧
        args.text? 2 "wait_for_presence" = .ok presence) := by
  constructor
  · intro h hgoto url hurl
    subst hgoto
    refine Classical.byContradiction fun hwaits => ?_
    have unfit : ∀ v p, args.text? 1 "wait_for_visible" = .ok v →
        args.text? 2 "wait_for_presence" ≠ .ok p := fun v p hv hp => hwaits ⟨v, p, hv, hp⟩
    let outside := Surroundings.still
    obtain ⟨r, w, hrun, complains, acted⟩ := Action.visit_complains (Config.usual.resolveUrl url)
      (args.text?_complains 1 "wait_for_visible") (args.text?_complains 2 "wait_for_presence")
      unfit outside
    have opens : goto.perform Session.obliging.recorded args ⟨((), []), outside⟩ = (r, w) := by
      have action : Action.ofOperation Session.obliging.recorded.config goto args
          = .ok (.visit (Config.usual.resolveUrl url) (args.text? 1 "wait_for_visible")
              (args.text? 2 "wait_for_presence")) := by
        simp only [Action.ofOperation, hurl]
        rfl
      rw [perform_running action rfl]
      exact hrun
    have late := h Session.obliging ⟨((), []), outside⟩ rfl
    rw [opens] at late
    exact acted (late complains)
  · intro h σ s w hempty
    refine perform_validates s ?_ w ?_
    · intro hgoto url hurl
      obtain ⟨visible, presence, hvisible, hpresence⟩ := h hgoto url hurl
      rw [hvisible, hpresence]
      exact ⟨.of_ok _, .of_ok _⟩
    · rw [hempty]
      intro deed hdeed
      cases hdeed

/-! ## A page that has been left -/

/-- A page at an address, and nothing from outside. -/
def pageWorld (url : String) : World (Page × List Deed) :=
  ⟨(⟨false, url, "", "", [], [], [], [], .null, []⟩, []), .still⟩

/-- The element to wait for is given as a list.  The operation complains of it when the page is at the
new address. -/
theorem goto_complains_having_left :
    let args : Arguments := ⟨"goto", [.text "http://new", .list [.text "#a"]]⟩
    let after := goto.perform (Page.session .usual).recorded args (pageWorld "http://old")
    Complains after.1 after.2.session.2 ∧ after.2.session.2 = [⟨.go "http://new", false⟩] ∧
      after.2.session.1.url = "http://new" ∧ ¬ Looked after.2.session.2 := by
  intro args after
  have deeds : after.2.session.2 = [⟨.go "http://new", false⟩] := by decide +kernel
  have left : after.2.session.1.url = "http://new" := by decide +kernel
  refine ⟨⟨⟨_, by rfl⟩, ?_⟩, deeds, left, ?_⟩
  · rw [deeds]
    decide
  · intro looked
    rw [deeds] at looked
    exact Bool.false_ne_true (looked _ (List.mem_singleton_self _))

/-- The elements for a code are counted before it is complained that they are too few. -/
example : (fillOtp.perform (Page.session .usual).recorded
    ⟨"fill_otp", [.text "#otp", .text "12"]⟩ ⟨(⟨false, "", "", "", [("#otp",
      [⟨"", "", none, false, true, true, .zero false⟩])], [], [], [], .null, []⟩, []),
      .still⟩).2.session.2
    = [⟨.waitFor (.presence "#otp") 30000000000, false⟩, ⟨.count "#otp", false⟩] := by
  decide +kernel

end Operation

end PageScript
