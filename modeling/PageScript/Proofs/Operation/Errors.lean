import PageScript.Proofs.Operation.Calls

/-!
# The errors of an operation

An operation fails because its arguments are unfit, because the session is stopped, because a call
fails, or because an assertion does not hold.  It never fails because a command is unknown, unless a
call does (`Operation.perform_familiar`).
-/

namespace PageScript

/-- If it is a failure, then not because a command is unknown. -/
abbrev Familiar {α : Type} (r : Except Error α) : Prop := FailsWith (fun e => e.isUnknown = false) r

/-! ## Arguments -/

namespace Arguments

variable {α : Type} (a : Arguments) (index : Nat) (name : String)

theorem required_familiar {r : Except Error (Option α)} (h : Familiar r) :
    Familiar (a.required name r) := by
  match r, h with
  | .error e, h => exact .of_error (h e rfl)
  | .ok none, _ => exact .of_error rfl
  | .ok (some x), _ => exact .of_ok x

theorem text?_familiar : Familiar (a.text? index name) := by
  unfold text?
  cases a.param? index name with
  | none => exact .of_ok none
  | some v =>
    dsimp only
    cases v.scalarText with
    | none => exact .of_error rfl
    | some s => exact .of_ok _

theorem text_familiar : Familiar (a.text index name) :=
  a.required_familiar name (a.text?_familiar index name)

theorem double?_familiar : Familiar (a.double? index name) := by
  unfold double?
  split
  · exact .of_ok none
  · exact .of_ok _
  · split
    · exact .of_ok _
    · exact .of_error rfl
  · exact .of_error rfl

theorem double_familiar : Familiar (a.double index name) :=
  a.required_familiar name (a.double?_familiar index name)

theorem int?_familiar : Familiar (a.int? index name) := by
  unfold int?
  cases h : a.double? index name with
  | error e => exact .of_error (a.double?_familiar index name e h)
  | ok x =>
    cases x with
    | none => exact .of_ok none
    | some x =>
      dsimp only
      split
      · exact .of_ok _
      · exact .of_error rfl

theorem int_familiar : Familiar (a.int index name) :=
  a.required_familiar name (a.int?_familiar index name)

theorem nat_familiar : Familiar (a.nat index name) := by
  unfold nat
  cases h : a.int index name with
  | error e => exact .of_error (a.int_familiar index name e h)
  | ok n =>
    dsimp only
    split
    · exact .of_error rfl
    · exact .of_ok _

theorem bool?_familiar : Familiar (a.bool? index name) := by
  unfold bool?
  split
  · exact .of_ok none
  · exact .of_ok _
  · exact .of_ok _
  · dsimp only
    split
    · exact .of_ok _
    · split
      · exact .of_ok _
      · exact .of_error rfl
  · exact .of_error rfl

theorem boolOr_familiar (default : Bool) : Familiar (a.boolOr index name default) := by
  unfold boolOr
  cases h : a.bool? index name with
  | error e => exact .of_error (a.bool?_familiar index name e h)
  | ok b => exact .of_ok _

theorem timeout_familiar (default : Duration) : Familiar (a.timeout index default) := by
  unfold timeout
  cases h : a.double? index "timeout" with
  | error e => exact .of_error (a.double?_familiar index "timeout" e h)
  | ok x =>
    cases x with
    | none => exact .of_ok _
    | some x =>
      dsimp only
      split
      · exact .of_ok _
      · exact .of_error rfl

end Arguments

/-! ## Operations as actions -/

namespace Action

variable (config : Config) (args : Arguments)

theorem rows_familiar : Familiar (rows args) := by
  unfold rows
  refine .of_map (.of_mapM (fun v => ?_) _) _
  cases row? v with
  | none => exact .of_error rfl
  | some pairs => exact .of_ok pairs

theorem scrolling_familiar : Familiar (scrolling args) := by
  refine .of_bind (args.int_familiar 0 "amount") fun amount =>
    .of_bind (args.text?_familiar 1 "direction") fun direction => ?_
  have negated : Familiar (if amount = Reading.int64Min then
      .error (.argument ("scroll_browser: amount " ++ intText amount ++ " out of range"))
      else .ok (-amount) : Except Error Int) := by
    split
    · exact .of_error rfl
    · exact .of_ok _
  dsimp only
  split
  · exact .of_ok _
  · exact .of_bind negated fun _ => .of_ok _
  · exact .of_ok _
  · exact .of_bind negated fun _ => .of_ok _
  · exact .of_error rfl

theorem span_familiar : Familiar (span args) := by
  refine .of_bind (args.double_familiar 0 "seconds") fun seconds => ?_
  cases Duration.ofDouble? seconds with
  | some d => exact .of_ok d
  | none => exact .of_error rfl

theorem settleAs_familiar (selector : String) (way : Option String) :
    Familiar (settleAs config selector way) := by
  unfold settleAs
  split
  · exact .of_ok _
  · exact .of_ok _
  · exact .of_ok _
  · exact .of_error rfl

theorem selector_familiar : Familiar (selector args) := args.text_familiar 0 "selector"

/-- What is waited for behind opening an address has been read as the other arguments are. -/
abbrev WaitsFamiliar (a : Action) : Prop := a.WaitsWith fun e => e.isUnknown = false

/-- An operation has been read as an action, or its arguments are unfit. -/
structure Sound (r : Except Error Action) : Prop where
  familiar : Familiar r
  waits : ∀ a, r = .ok a → a.WaitsFamiliar

namespace Sound

theorem of_ok {a : Action} (h : a.WaitsFamiliar) : Sound (.ok a) := by
  refine ⟨.of_ok a, fun a' ha' => ?_⟩
  cases ha'
  exact h

theorem of_bind {α : Type} {r : Except Error α} {f : α → Except Error Action} (hr : Familiar r)
    (hf : ∀ x, Sound (f x)) : Sound (r >>= f) := by
  cases r with
  | ok x => exact hf x
  | error e =>
    refine ⟨.of_error (hr e rfl), fun a ha => ?_⟩
    cases ha

end Sound

theorem settled_sound {call : String → Except Error Call} (h : ∀ s, Familiar (call s)) :
    Sound (settled config args call) :=
  .of_bind (selector_familiar args) fun s => .of_bind (h s) fun _ => .of_ok trivial

theorem waiting_sound (timeoutAt : Nat) {condition : Except Error Condition}
    (h : Familiar condition) : Sound (waiting config args timeoutAt condition) :=
  .of_bind h fun _ => .of_bind (args.timeout_familiar timeoutAt _) fun _ => .of_ok trivial

theorem asserting_sound (name : String) (assertion : Call → String → String → Assertion) :
    Sound (asserting config args name assertion) :=
  .of_bind (selector_familiar args) fun s => .of_bind (args.text_familiar 1 name) fun _ =>
    .of_bind (args.text?_familiar 2 "wait_for") fun way =>
      .of_bind (settleAs_familiar config s way) fun _ => .of_ok trivial

theorem assertingVisible_sound (wanted : Bool) : Sound (assertingVisible config args wanted) :=
  .of_bind (selector_familiar args) fun _ =>
    .of_bind (args.timeout_familiar 1 _) fun _ => .of_ok trivial

theorem filling_sound (clear : Bool) : Sound (filling config args clear) :=
  .of_bind (rows_familiar args) fun _ => .of_ok trivial

/-- What is wrong with the arguments of an operation is never that a command is unknown. -/
theorem ofOperation_sound (op : Operation) : Sound (ofOperation config op args) := by
  have selector := selector_familiar args
  cases op with
  | back | forward | refreshPage | showCursor | showKeys | getLog | log | closeWindow | acceptAlert
  | dismissAlert | closeAlert | assertAlertPresent | assertAlertNotPresent => exact .of_ok trivial
  | goto =>
    have waits := And.intro (args.text?_familiar 1 "wait_for_visible")
      (args.text?_familiar 2 "wait_for_presence")
    exact .of_bind (args.text_familiar 0 _) fun _ => .of_ok waits
  | go | js | assertUrl | assertTitle | assertTextInPage | assertTextNotInPage
  | assertTextInLog | assertTextNotInLog =>
    exact .of_bind (args.text_familiar 0 _) fun _ => .of_ok trivial
  | screenshot | newWindow => exact .of_bind (args.text?_familiar 0 _) fun _ => .of_ok trivial
  | switchToWindow => exact .of_bind (args.nat_familiar 0 _) fun _ => .of_ok trivial
  | assertJsErrors => exact .of_bind (args.boolOr_familiar 0 _ _) fun _ => .of_ok trivial
  | wait => exact .of_bind (span_familiar args) fun _ => .of_ok trivial
  | scrollBrowser => exact .of_bind (scrolling_familiar args) fun _ => .of_ok trivial
  | clickAll | assertExists | assertFound | assertNotFound | assertChecked | assertNotChecked =>
    exact .of_bind selector fun _ => .of_ok trivial
  | click | clear | moveTo | hover => exact settled_sound config args fun _ => .of_ok _
  | setSelectByText | sendKey =>
    exact settled_sound config args fun _ => .of_bind (args.text_familiar 1 _) fun _ => .of_ok _
  | scrollToElement =>
    exact settled_sound config args fun _ => .of_bind (args.int?_familiar 1 _) fun _ => .of_ok _
  | setValue =>
    exact settled_sound config args fun _ => .of_bind (args.text_familiar 1 _) fun _ =>
      .of_bind (args.boolOr_familiar 2 _ _) fun _ => .of_bind (args.boolOr_familiar 3 _ _) fun _ =>
        .of_bind (args.boolOr_familiar 4 _ _) fun _ => .of_ok _
  | setValues | fill => exact filling_sound config args _
  | setSelectize | fillOtp =>
    exact .of_bind selector fun _ => .of_bind (args.text_familiar 1 _) fun _ => .of_ok trivial
  | waitForPresence | waitForVisible | waitForInvisible | waitForClickable | waitForKo =>
    exact waiting_sound config args _ (selector.of_map _)
  | waitForText | waitForTextInValue | waitForValue =>
    exact waiting_sound config args _
      (.of_bind selector fun _ => .of_bind (args.text_familiar 1 _) fun _ => .of_ok _)
  | waitForTitle | waitForUrl =>
    exact waiting_sound config args _ ((args.text_familiar 0 _).of_map _)
  | waitForOpacity =>
    exact waiting_sound config args _
      (.of_bind selector fun _ => .of_bind (args.double_familiar 1 _) fun _ => .of_ok _)
  | waitForAlert => exact waiting_sound config args _ (.of_ok _)
  | assertVisible | assertNotVisible => exact assertingVisible_sound config args _
  | assertValueOfElement | assertValueOfElements | assertTextInElement | assertTextInElements
  | assertElementContainsText | assertElementHasClass | assertElementNotHasClass =>
    exact asserting_sound config args _ _
  | assertElementCount =>
    exact .of_bind selector fun _ => .of_bind (args.nat_familiar 1 _) fun _ => .of_ok trivial
  | assertJsErrorsCount =>
    unfold ofOperation
    dsimp only
    cases args.param? 0 "count" with
    | none => exact .of_ok trivial
    | some v => exact .of_bind (args.nat_familiar 0 _) fun _ => .of_ok trivial

end Action

/-! ## Sessions -/

/-- No call fails because a command is unknown. -/
def Session.Familiar {σ : Type} (s : Session σ) : Prop :=
  ∀ c x, PageScript.Familiar (s.perform c x).result

/-- From where the property holds, the action does not fail because a command is unknown, and the
property holds again. -/
abbrev StaysFamiliar {S α : Type} (P : S → Prop) (a : ExceptT Error (StateM S) α) : Prop :=
  Confined P (fun e => e.isUnknown = false) a

/-- The action does not fail because a command is unknown. -/
abbrev Doing.Familiar {σ α : Type} (a : Doing σ α) : Prop := StaysFamiliar (fun _ => True) a

theorem Session.Familiar.within {σ : Type} {s : Session σ} (hs : s.Familiar) (c : Call) :
    c.Within s (fun _ => True) fun e => e.isUnknown = false :=
  fun x _ => ⟨hs c x, trivial⟩

/-- No operation fails because a command is unknown. -/
theorem Operation.perform_familiar {σ : Type} {s : Session σ} (hs : s.Familiar) (op : Operation)
    (args : Arguments) : Doing.Familiar (op.perform s args) := by
  have sound := Action.ofOperation_sound s.config args op
  exact perform_within (fun _ h => h) sound.familiar fun a ha =>
    ⟨sound.waits a ha, fun c _ => hs.within c⟩

end PageScript
