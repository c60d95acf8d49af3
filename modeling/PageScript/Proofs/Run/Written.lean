import PageScript.Page.Basic
import PageScript.Proofs.Expression.EvalToken
import PageScript.Proofs.Run.Accounting
import PageScript.Proofs.Run.History

/-!
# What is set is what is asserted

A script writes the value of a token into an element, and then asserts that the element has the
value that was recorded (`writeAndAssert`).  The session has to find the element, to set it when it
is written in the usual way, and to read what it was set to (`Session.Input`).  Nothing else about
it matters, and nothing about the options, the registry or the surroundings.

The value takes the place of the token as a whole and is not looked through again, so it may look
like a token itself.
-/

namespace PageScript

variable {σ α β : Type}

/-! ## Calls that succeed -/

/-- From states of a kind the call succeeds, and what it leaves goes with its reply. -/
def Call.Answers (s : Session σ) (P : σ → Prop) (c : Call) (Q : c.Reply → σ → Prop) : Prop :=
  ∀ x, P x → ∃ reply, (s.perform c x).result = .ok reply ∧ Q reply (s.perform c x).after

/-- The session can be used, and it has this value. -/
def Session.Shows (s : Session σ) (value? : σ → Option String) (v : String) (x : σ) : Prop :=
  s.status x = .running ∧ value? x = some v

/-- The element of a selector can be written and read.  `value?` is its value where it is there. -/
structure Session.Input (s : Session σ) (selector : String) (value? : σ → Option String) :
    Prop where
  /-- It is found where it is. -/
  found (v : String) : (Action.settle s.config selector).Answers s (s.Shows value? v)
    fun _ => s.Shows value? v
  /-- Writing in the usual way, which empties it first, sets it. -/
  written (v text : String) : (Call.setValue selector text .usual).Answers s (s.Shows value? v)
    fun _ => s.Shows value? text
  /-- It is read as it is. -/
  read (v : String) : (Call.getValue selector).Answers s (s.Shows value? v)
    fun reply x => reply = v ∧ s.Shows value? v x

namespace Doing

/-- From sessions of a kind the action succeeds, and what it leaves goes with its result. -/
def Attains (P : σ → Prop) (Q : α → σ → Prop) (a : Doing σ α) : Prop :=
  ∀ w, P w.session → ∃ x after, a w = (.ok x, after) ∧ Q x after.session

namespace Attains

variable {P : σ → Prop} {Q : α → σ → Prop} {R : β → σ → Prop}

theorem of_pure {x : α} (h : ∀ y, P y → Q x y) : Attains P Q (pure x : Doing σ α) :=
  fun w hw => ⟨x, w, rfl, h _ hw⟩

theorem of_call {s : Session σ} {c : Call} {Q : c.Reply → σ → Prop} (h : c.Answers s P Q) :
    Attains P Q (call s c) := by
  intro w hw
  obtain ⟨reply, hresult, hafter⟩ := h w.session hw
  exact ⟨reply, _, by rw [call, hresult], hafter⟩

theorem of_bind {a : Doing σ α} {f : α → Doing σ β} (ha : Attains P Q a)
    (hf : ∀ x, Attains (Q x) R (f x)) : Attains P R (a >>= f) := by
  intro w hw
  obtain ⟨x, after, hstep, hq⟩ := ha w hw
  rw [Lockstep.bind_ok hstep]
  exact hf x after hq

end Attains

end Doing

open Doing (Attains)

theorem Assertion.valueOf_accepts (first : Call) (selector : String) {reply expected : String}
    (h : reply = expected) : (valueOf first selector expected).complaint? reply = none := by
  simp [valueOf, test, h]

namespace Arguments

variable {selector text : String} {v : Value}

/-- Two values by position, of which the first is a selector. -/
def pair (op selector : String) (v : Value) : Arguments := ⟨op, [.text selector, v]⟩

theorem text_pair_first (op name : String) :
    (pair op selector v).text 0 name = .ok selector := rfl

theorem param?_pair_second (hnull : v.isNull = false) (op name : String) :
    (pair op selector v).param? 1 name = some v := by
  simp [pair, param?, Option.filter, hnull]

theorem text_pair_second (hv : v.scalarText = some text) (hnull : v.isNull = false)
    (op name : String) : (pair op selector v).text 1 name = .ok text := by
  rw [Arguments.text, text?, param?_pair_second hnull]
  simp [hv, required]

end Arguments

namespace Session.Input

open Arguments (pair)

variable {s : Session σ} {selector text : String} {value? : σ → Option String} {v : Value}

section

variable (h : s.Input selector value?) (hv : v.scalarText = some text) (hnull : v.isNull = false)

include h hv hnull

/-- Setting an element leaves it with the text of the value. -/
theorem setValue_attains (old : String) :
    Attains (s.Shows value? old) (fun _ => s.Shows value? text)
      (Operation.setValue.perform s (pair "set_value" selector v)) := by
  have action : Action.ofOperation s.config .setValue (pair "set_value" selector v)
      = .ok (.calls [Action.settle s.config selector, .setValue selector text .usual]) := by
    rw [Action.ofOperation, Action.settled, Action.selector, Arguments.text_pair_first,
      Arguments.text_pair_second hv hnull]
    rfl
  intro w hw
  rw [Operation.perform_running action hw.1]
  have calls : Attains (s.Shows value? old) (fun _ => s.Shows value? text)
      (Doing.callAll s [Action.settle s.config selector, .setValue selector text .usual]) :=
    .of_bind (.of_call (h.found old)) fun _ => .of_bind (.of_call (h.written old text)) fun _ =>
      .of_pure fun _ hy => hy
  exact calls w hw

/-- Asserting that an element has the text of the value succeeds if it does. -/
theorem assertValue_attains :
    Attains (s.Shows value? text) (fun _ => s.Shows value? text)
      (Operation.assertValueOfElement.perform s (pair "assert_value_of_element" selector v)) := by
  have action : Action.ofOperation s.config .assertValueOfElement
      (pair "assert_value_of_element" selector v)
        = .ok (.assert (.valueOf (Action.settle s.config selector) selector text)) := by
    rw [Action.ofOperation, Action.asserting, Action.selector, Arguments.text_pair_first,
      Arguments.text_pair_second hv hnull]
    rfl
  intro w hw
  rw [Operation.perform_running action hw.1]
  have check : Attains (s.Shows value? text) (fun _ => s.Shows value? text)
      (Action.check s (.valueOf (Action.settle s.config selector) selector text)) := by
    have waits : Attains (s.Shows value? text) (fun _ => s.Shows value? text)
        (Doing.callAll s [Action.settle s.config selector]) :=
      .of_bind (.of_call (h.found text)) fun _ => .of_pure fun _ hy => hy
    refine .of_bind waits fun _ => .of_bind (.of_call (h.read text)) fun reply w hw => ?_
    obtain ⟨hreply, hw⟩ := hw
    refine ⟨(), w, ?_, hw⟩
    rw [Assertion.valueOf_accepts _ _ hreply]
    rfl
  exact check w hw

end

end Session.Input

/-! ## The arguments -/

/-- The token that asks for the first value that was recorded under `eval`. -/
def recallToken : String := "(( vars|eval,0 ))"

namespace Resolver

variable (r : Resolver) {source : String} {v : Value} {scope : Scope}

/-- The token of a literal resolves to its value if its body is the literal. -/
theorem resolveScalar_evalToken (hparse : Literal.parse source = .ok v)
    (hbody : Token.body? (evalToken source) = some (Text.trimmed ("eval|" ++ source)))
    (scope : Scope) : r.resolveScalar (.text (evalToken source)) scope
      = (.ok v, { scope with names := scope.names.record "eval" v }) := by
  have trimmed : Text.trimmed ("eval|" ++ source) = String.ofList (evalBody source.toList) := by
    rw [Text.trimmed, String.toList_append]
    exact congrArg String.ofList (Text.trimRight_append_ink "eval".toList rfl source.toList)
  rw [resolveScalar, hbody, trimmed]
  show r.resolve _ scope = _
  rw [r.resolve_evalBody, parse_evalBody.mpr (Literal.parse_eq_ok_iff.mp hparse)]

/-- What was recorded is recalled, and that is not recorded. -/
theorem resolveScalar_recallToken (hlookup : scope.names.lookup "eval" 0 = .ok v) :
    r.resolveScalar (.text recallToken) scope = (.ok v, scope) := by
  have body : Token.body? recallToken = some "vars|eval,0" := by decide +kernel
  have parted : parts "vars|eval,0" = ("vars", "eval,0") := by decide +kernel
  rw [resolveScalar, body]
  exact resolve_found parted rfl hlookup

/-- A selector without a token stays as it is in front of what is resolved. -/
theorem arguments_pair {selector token : String} {after : Scope}
    (hselector : Token.body? selector = none)
    (htoken : r.resolveScalar (.text token) scope = (.ok v, after)) (op : String) :
    (Command.mk op (some (.list [.text selector, .text token]))).arguments r scope
      = (.ok (Arguments.pair op selector v), after) := by
  have first : r.resolveScalar (.text selector) scope = (.ok (.text selector), scope) := by
    rw [resolveScalar, hselector]
    rfl
  have second : r.resolveItems [.text token] scope = (.ok [v], after) :=
    Lockstep.bind_ok htoken _
  have items : r.resolveItems [.text selector, .text token] scope
      = (.ok [.text selector, v], after) :=
    (Lockstep.bind_ok first _).trans (Lockstep.bind_ok second _)
  have value : r.resolveValue (.list [.text selector, .text token]) scope
      = (.ok (.list [.text selector, v]), after) := Lockstep.bind_ok items _
  exact Lockstep.bind_ok value _

end Resolver

/-! ## The run -/

/-- Writes the value of a literal into the element of a selector. -/
def Command.writing (selector source : String) : Command :=
  ⟨"set_value", some (.list [.text selector, .text (evalToken source)])⟩

/-- Asserts that the element of a selector has the value that was recorded first. -/
def Command.recalling (selector : String) : Command :=
  ⟨"assert_value_of_element", some (.list [.text selector, .text recallToken])⟩

namespace Setup

variable {setup : Setup σ} {t : Turn σ} {op : Operation} {args : Arguments} {after : Scope}

/-- A command whose arguments resolve does its operation. -/
theorem turn_attains (hop : Operation.ofName? t.command.name = some op)
    (hargs : t.command.arguments setup.resolver (setup.opening t).scope = (.ok args, after))
    {P Q : σ → Prop} (hperform : Attains P (fun _ => Q) (op.perform setup.session args))
    (hP : P t.before.world.session) :
    setup.fate t = .done ∧ (setup.closing t).names = after.names ∧
      Q (setup.closing t).world.session := by
  have hname : t.command.name ≠ "include" := by
    rintro heq
    rw [heq, Operation.ofName?_reserved "include" (by decide)] at hop
    cases hop
  obtain ⟨told, hmeet⟩ := setup.meet_ok t.command t.before
  have hopening : setup.opening t = _ := congrArg Prod.snd hmeet
  have session : (setup.opening t).world.session = t.before.world.session := by
    rw [hopening]
  have resolved : setup.arguments t.command (setup.opening t) = (.ok args,
      { setup.opening t with
        names := after.names
        world := { (setup.opening t).world with outside := after.outside } }) := by
    unfold arguments Running.resolving
    rw [← Progress.scope, hargs]
  obtain ⟨_, w, hdone, hQ⟩ := hperform ⟨(setup.opening t).world.session, after.outside⟩
    (by rw [session]; exact hP)
  have hrun : setup.running t
      = (.ok (), { setup.opening t with names := after.names, world := w }) := by
    rw [running, setup.runCommand_operation hop, Lockstep.bind_ok resolved]
    unfold Running.doing
    rw [hdone]
  rw [fate, closing, if_neg hname, if_neg hname, hrun]
  exact ⟨rfl, rfl, hQ⟩

section

variable {selector source text old : String} {v : Value}
variable {value? : σ → Option String} (hinput : setup.session.Input selector value?)
variable (hselector : Token.body? selector = none) (hparse : Literal.parse source = .ok v)
variable (hv : v.scalarText = some text) (hnull : v.isNull = false)
variable (hbody : Token.body? (evalToken source) = some (Text.trimmed ("eval|" ++ source)))

include hinput hselector hv hnull

include hparse hbody in
/-- The turn of the command that writes: the value is recorded, and the element has its text. -/
theorem writing_turn (ht : t.command = .writing selector source)
    (hbefore : setup.session.Shows value? old t.before.world.session) :
    setup.fate t = .done ∧ (setup.closing t).names = t.before.names.record "eval" v ∧
      setup.session.Shows value? text (setup.closing t).world.session := by
  have hop : Operation.ofName? t.command.name = some .setValue := by
    rw [ht]
    exact Operation.ofName?_name .setValue
  have hargs := setup.resolver.arguments_pair hselector
    (setup.resolver.resolveScalar_evalToken hparse hbody (setup.opening t).scope) "set_value"
  rw [← Command.writing, ← ht] at hargs
  rw [← setup.opening_names t]
  exact turn_attains hop hargs (hinput.setValue_attains hv hnull old) hbefore

/-- The turn of the command that asserts: it is done, and nothing is recorded. -/
theorem recalling_turn (ht : t.command = .recalling selector)
    (hlookup : t.before.names.lookup "eval" 0 = .ok v)
    (hbefore : setup.session.Shows value? text t.before.world.session) :
    setup.fate t = .done ∧ (setup.closing t).names = t.before.names ∧
      setup.session.Shows value? text (setup.closing t).world.session := by
  have hop : Operation.ofName? t.command.name = some .assertValueOfElement := by
    rw [ht]
    exact Operation.ofName?_name .assertValueOfElement
  have hscope : (setup.opening t).scope.names.lookup "eval" 0 = .ok v := by
    rw [Progress.scope, setup.opening_names, hlookup]
  have hargs := setup.resolver.arguments_pair hselector
    (setup.resolver.resolveScalar_recallToken hscope) "assert_value_of_element"
  rw [← Command.recalling, ← ht] at hargs
  rw [← setup.opening_names t]
  exact turn_attains hop hargs (hinput.assertValue_attains hv hnull) hbefore

end

/-- Whatever an element holds and whatever the options are, what is written into it is what is then
asserted.  The value is that of any literal whose token ends behind it, apart from lists, objects
and null. -/
theorem run_writing_recalling (setup : Setup σ) {selector source text old : String} {v : Value}
    {value? : σ → Option String} (hinput : setup.session.Input selector value?)
    (hselector : Token.body? selector = none) (hparse : Literal.parse source = .ok v)
    (hv : v.scalarText = some text) (hnull : v.isNull = false)
    (hbody : Token.body? (evalToken source) = some (Text.trimmed ("eval|" ++ source)))
    (world : World σ) (hworld : setup.session.Shows value? old world.session)
    (path : Option String) :
    let ending := setup.run ⟨[.writing selector source, .recalling selector], path⟩ world
    ∃ report, ending.result = .ok report ∧ report.executed = 2 ∧ report.failures = [] ∧
      report.names.history "eval" = [v] ∧
      setup.session.Shows value? text ending.world.session := by
  let script : Script := ⟨[.writing selector source, .recalling selector], path⟩
  -- the usual imports record nothing
  have nothing : (setup.start world).names.history "eval" = [] := by
    obtain ⟨added, heq, -⟩ := Importing.withUsual_offers setup.registry .empty
    rw [Setup.start, heq]
    rfl
  let start := setup.start world
  let t : Turn σ := ⟨0, maxIncludeDepth, script.directory, .writing selector source, start⟩
  obtain ⟨hwrote, hnames, hshows⟩ :=
    writing_turn hinput hselector hparse hv hnull hbody (t := t) rfl hworld
  let p := { setup.closing t with executed := (setup.closing t).executed + 1 }
  have recorded : p.names.history "eval" = [v] := by
    show (setup.closing t).names.history "eval" = [v]
    rw [hnames, Namespace.history_record_self]
    show (setup.start world).names.history "eval" ++ [v] = [v]
    rw [nothing, List.nil_append]
  let u : Turn σ := ⟨0, maxIncludeDepth, script.directory, .recalling selector, p⟩
  obtain ⟨hasserted, hsame, hends⟩ := recalling_turn hinput hselector hv hnull (t := u) rfl
    (by rw [Namespace.lookup, recorded]; rfl) hshows
  have takes : setup.Takes maxIncludeDepth 0 script.directory script.commands (setup.start world)
      [t, u] (.ok ()) _ := .done rfl hwrote (.done rfl hasserted .nil)
  have hrun : setup.run script world = .of _ :=
    (setup.run_eq script world).trans (congrArg Ending.of takes.eq_turns.2)
  dsimp only
  rw [hrun]
  refine ⟨_, rfl, ?_, ?_, ?_, hends⟩
  · show (setup.closing u).executed + 1 = 2
    simp [u, p, t, start, Setup.start]
  · show (setup.closing u).failures = []
    simp [u, p, t, start, Setup.start]
  · show (setup.closing u).names.history "eval" = [v]
    rw [hsame, recorded]

end Setup

/-! ## Pages held in memory -/

namespace Page

/-- The value of the first element of a selector, on a page whose calls are not made to fail. -/
def value? (selector : String) (p : Page) : Option String :=
  if p.faults = [] then (p.fields selector).head?.map (·.value) else none

variable {p : Page} {selector v : String}

theorem value?_eq_some : p.value? selector = some v ↔
    p.faults = [] ∧ ∃ f fs, p.fields selector = f :: fs ∧ f.value = v := by
  unfold value?
  split
  · cases p.fields selector <;> simp [*]
  · simp [*]

/-- A call that is not made to fail is answered by the page. -/
theorem answered (config : Config) (hfaults : p.faults = []) {c : Call} {reply : c.Reply}
    {after : Page} (h : p.answer c = (.ok reply, after)) {Q : c.Reply → Page → Prop}
    (hQ : Q reply after) :
    ∃ reply, ((session config).perform c p).result = .ok reply ∧
      Q reply ((session config).perform c p).after := by
  have outcome : (session config).perform c p = ⟨.ok reply, [], after⟩ := by
    simp [session, hfaults, h]
  rw [outcome]
  exact ⟨reply, rfl, hQ⟩

/-- The elements of such a page can be written and read. -/
theorem session_input (config : Config) (selector : String) :
    (session config).Input selector (value? selector) where
  found v p hp := by
    obtain ⟨hfaults, f, fs, hfields, -⟩ := value?_eq_some.mp hp.2
    have present : p.answer (Action.settle config selector) = (.ok (), p) := by
      simp [answer, Action.settle, holds, hfields, reply]
    exact answered config hfaults present hp
  written v text p hp := by
    obtain ⟨hfaults, f, fs, hfields, -⟩ := value?_eq_some.mp hp.2
    have changed : p.answer (.setValue selector text .usual)
        = (.ok (), p.putFields selector ({ f with value := text } :: fs)) := by
      simp [answer, changeFirst, hfields, Writing.usual]
    refine answered config hfaults changed ⟨hp.1, ?_⟩
    exact value?_eq_some.mpr ⟨hfaults, _, _, fields_putFields hfields, rfl⟩
  read v p hp := by
    obtain ⟨hfaults, f, fs, hfields, hvalue⟩ := value?_eq_some.mp hp.2
    have told : p.answer (.getValue selector) = (.ok v, p) := by
      simp [answer, first, hfields, hvalue, Except.map]
    exact answered config hfaults told
      (Q := fun reply x => reply = v ∧ (session config).Shows (value? selector) v x) ⟨rfl, hp⟩

end Page

open Setup (rehearsal blankWorld)

/-- A world with a page that has one field. -/
def fieldWorld : World Page :=
  { blankWorld with session := { blankWorld.session with
      elements := [("#name", [⟨"old", "", none, false, true, true, .zero false⟩])] } }

/-- A text that looks like a token is written and asserted as it is. -/
theorem run_writing_recalling_token :
    rehearsal.session.Input "#name" (Page.value? "#name") ∧ Token.body? "#name" = none ∧
      Literal.parse "'(( eval|2 ))'" = .ok (.text "(( eval|2 ))") ∧
      Token.body? (evalToken "'(( eval|2 ))'")
        = some (Text.trimmed ("eval|" ++ "'(( eval|2 ))'")) ∧
      rehearsal.session.Shows (Page.value? "#name") "old" fieldWorld.session ∧
      let ending := rehearsal.run
        ⟨[.writing "#name" "'(( eval|2 ))'", .recalling "#name"], none⟩ fieldWorld
      ∃ report, ending.result = .ok report ∧ report.executed = 2 ∧ report.failures = [] ∧
        report.names.history "eval" = [.text "(( eval|2 ))"] ∧
        rehearsal.session.Shows (Page.value? "#name") "(( eval|2 ))" ending.world.session := by
  have hselector : Token.body? "#name" = none := by decide +kernel
  have hparse : Literal.parse "'(( eval|2 ))'" = .ok (.text "(( eval|2 ))") := rfl
  have hbody : Token.body? (evalToken "'(( eval|2 ))'")
      = some (Text.trimmed ("eval|" ++ "'(( eval|2 ))'")) := by decide +kernel
  have hworld : rehearsal.session.Shows (Page.value? "#name") "old" fieldWorld.session := by
    exact ⟨rfl, by decide +kernel⟩
  have hinput := Page.session_input rehearsal.session.config "#name"
  refine ⟨hinput, hselector, hparse, hbody, hworld, ?_⟩
  exact rehearsal.run_writing_recalling hinput hselector hparse rfl rfl hbody fieldWorld hworld none

end PageScript
