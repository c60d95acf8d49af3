import PageScript.Operation.Performing
import PageScript.Page.Basic

/-!
# Parameters of operations

Every operation reads its arguments as parameters, which have a place in a list and a name in an
object (`Operation.parameters`).  Three operations have none: logging and the two that fill rows take
all their values as they come.

What an operation does depends on nothing but its parameters (`Action.ofOperation_agree`), and the
values of a list are the parameters that an object with the same values under their names holds
(`Arguments.agree_object`).  So a list and an object are two ways to say the same
(`Operation.perform_object_eq_list`).
-/

namespace PageScript

/-! ## Fields under different names -/

/-- The fields of an object, when no name occurs twice. -/
theorem Value.field?_eq_some_iff {name : String} {v : Value} {fields : List (String × Value)}
    (h : (Value.names fields).Nodup) : Value.field? name fields = some v ↔ (name, v) ∈ fields := by
  induction fields with
  | nil => simp [Value.field?]
  | cons f fields ih =>
    obtain ⟨k, w⟩ := f
    obtain ⟨hk, hrest⟩ : k ∉ Value.names fields ∧ (Value.names fields).Nodup := List.nodup_cons.mp h
    by_cases hname : k = name
    · subst hname
      have absent : (k, v) ∉ fields := fun hmem => hk (List.mem_map_of_mem hmem)
      simp [Value.field?, absent, eq_comm]
    · simp [Value.field?, hname, Ne.symm hname, ih hrest]

/-- The value that stands in a list where the name stands in another. -/
theorem mem_zip_iff_of_nodup {names : List String} {values : List Value} (h : names.Nodup) {i : Nat}
    {name : String} (hi : names[i]? = some name) (v : Value) :
    (name, v) ∈ names.zip values ↔ values[i]? = some v := by
  constructor
  · intro hmem
    obtain ⟨j, hj⟩ := List.mem_iff_getElem?.mp hmem
    obtain ⟨hname, hv⟩ := List.getElem?_zip_eq_some.mp hj
    have hlt : i < names.length := (List.getElem?_eq_some_iff.mp hi).1
    rwa [(List.getElem?_inj hlt h).mp (hi.trans hname.symm)]
  · intro hv
    exact List.mem_iff_getElem?.mpr ⟨i, List.getElem?_zip_eq_some.mpr ⟨hi, hv⟩⟩

/-- Names that have no value are left out. -/
theorem names_zip_sublist : ∀ (names : List String) (values : List Value),
    (Value.names (names.zip values)).Sublist names
  | [], _ => List.Sublist.refl []
  | names, [] => by
    rw [List.zip_nil_right]
    exact List.nil_sublist names
  | name :: names, _ :: values => (names_zip_sublist names values).cons_cons name

namespace Arguments

/-! ## Arguments that agree -/

/-- Two arguments hold the same under parameters with these names, in this order. -/
structure Agree (names : List String) (a b : Arguments) : Prop where
  op : a.op = b.op
  param : ∀ i name, names[i]? = some name → a.param? i name = b.param? i name

/-- In a list a parameter is found at its place, where null is none. -/
theorem param?_list {op : String} {values : List Value} (h : ∀ fs, values ≠ [.object fs]) (i : Nat)
    (name : String) :
    (⟨op, values⟩ : Arguments).param? i name = (values[i]?).filter fun v => !v.isNull := by
  unfold param?
  split
  · rename_i fs hfs
    exact absurd hfs (h fs)
  · rfl

/-- The values that are not null, under the names of the parameters. -/
def present (names : List String) (values : List Value) : List (String × Value) :=
  (names.zip values).filter fun f => !f.2.isNull

/-- Values in a list agree with an object that holds those that are not null under the names of the
parameters. -/
theorem agree_present (op : String) {names : List String} {values : List Value}
    {fields : List (String × Value)} (hnames : names.Nodup) (hsingle : ∀ fs, values ≠ [.object fs])
    (hfields : fields.Perm (present names values)) :
    Agree names ⟨op, values⟩ ⟨op, [.object fields]⟩ := by
  refine ⟨rfl, fun i name hi => ?_⟩
  have named : (⟨op, [.object fields]⟩ : Arguments).param? i name = Value.field? name fields := rfl
  have distinct : (Value.names fields).Nodup := by
    refine (hfields.map Prod.fst).nodup_iff.mpr ?_
    exact ((List.filter_sublist.map Prod.fst).trans (names_zip_sublist names values)).nodup hnames
  rw [param?_list hsingle, named]
  ext v
  rw [Value.field?_eq_some_iff distinct, hfields.mem_iff, present, List.mem_filter,
    mem_zip_iff_of_nodup hnames hi, Option.filter_eq_some_iff]

/-- Values in a list, none of them null, agree with an object that holds them under the names of the
parameters. -/
theorem agree_object (op : String) {names : List String} {values : List Value}
    {fields : List (String × Value)} (hnames : names.Nodup)
    (hnull : ∀ v ∈ values, v.isNull = false) (hsingle : ∀ fs, values ≠ [.object fs])
    (hfields : fields.Perm (names.zip values)) :
    Agree names ⟨op, values⟩ ⟨op, [.object fields]⟩ := by
  have all : present names values = names.zip values :=
    List.filter_eq_self.mpr fun f hf => by simp [hnull f.2 (List.of_mem_zip hf).2]
  exact agree_present op hnames hsingle (by rwa [all])

/-! ## Readers -/

namespace Agree

variable {names : List String} {a b : Arguments} (h : Agree names a b) (i : Nat) (name : String)
  (hi : names[i]? = some name)

include h

theorem missing : a.missing name = b.missing name := by
  rw [Arguments.missing, h.op, Arguments.missing]

theorem unfit (expected : String) (got : Value) :
    a.unfit name expected got = b.unfit name expected got := by
  rw [Arguments.unfit, h.op, Arguments.unfit]

theorem required {α : Type} (r : Except Error (Option α)) :
    a.required name r = b.required name r := by
  match r with
  | .error e => rfl
  | .ok none => exact congrArg Except.error (h.missing name)
  | .ok (some x) => rfl

include hi

theorem text? : a.text? i name = b.text? i name := by
  simp only [Arguments.text?, h.param i name hi, h.unfit]

theorem text : a.text i name = b.text i name := by
  rw [Arguments.text, h.text? i name hi, h.required, Arguments.text]

theorem double? : a.double? i name = b.double? i name := by
  simp only [Arguments.double?, h.param i name hi, h.unfit]

theorem double : a.double i name = b.double i name := by
  rw [Arguments.double, h.double? i name hi, h.required, Arguments.double]

theorem int? : a.int? i name = b.int? i name := by
  simp only [Arguments.int?, h.double? i name hi, h.unfit]

theorem int : a.int i name = b.int i name := by
  rw [Arguments.int, h.int? i name hi, h.required, Arguments.int]

theorem nat : a.nat i name = b.nat i name := by
  simp only [Arguments.nat, h.int i name hi, h.unfit]

theorem bool? : a.bool? i name = b.bool? i name := by
  simp only [Arguments.bool?, h.param i name hi, h.unfit]

theorem boolOr (default : Bool) : a.boolOr i name default = b.boolOr i name default := by
  simp only [Arguments.boolOr, h.bool? i name hi]

end Agree

theorem Agree.timeout {names : List String} {a b : Arguments} (h : Agree names a b) (i : Nat)
    (hi : names[i]? = some "timeout") (default : Duration) :
    a.timeout i default = b.timeout i default := by
  simp only [Arguments.timeout, h.double? i "timeout" hi, h.unfit]

end Arguments

/-! ## Operations -/

namespace Operation

/-- The names of the parameters that an operation reads, in the order of their places in a list. -/
def parameters : Operation → List String
  | .go | .assertUrl => ["url"]
  | .goto => ["url", "wait_for_visible", "wait_for_presence"]
  | .click | .clickAll | .clear | .moveTo | .hover | .assertExists | .assertFound | .assertNotFound
  | .assertChecked | .assertNotChecked => ["selector"]
  | .setValue => ["selector", "value", "clear", "blur", "typing"]
  | .setSelectByText | .setSelectize => ["selector", "text"]
  | .fillOtp => ["selector", "code"]
  | .sendKey => ["selector", "key"]
  | .scrollToElement => ["selector", "offset"]
  | .scrollBrowser => ["amount", "direction"]
  | .js => ["script"]
  | .wait => ["seconds"]
  | .waitForPresence | .waitForVisible | .waitForInvisible | .waitForClickable | .waitForKo
  | .assertVisible | .assertNotVisible => ["selector", "timeout"]
  | .waitForText => ["selector", "text", "timeout"]
  | .waitForTextInValue | .waitForValue | .waitForOpacity => ["selector", "value", "timeout"]
  | .waitForTitle => ["title", "timeout"]
  | .waitForUrl => ["url", "timeout"]
  | .waitForAlert => ["timeout"]
  | .screenshot => ["path"]
  | .switchToWindow => ["index"]
  | .newWindow => ["url"]
  | .assertTitle => ["title"]
  | .assertTextInPage | .assertTextNotInPage | .assertTextInLog | .assertTextNotInLog => ["text"]
  | .assertValueOfElement | .assertValueOfElements => ["selector", "value", "wait_for"]
  | .assertTextInElement | .assertTextInElements | .assertElementContainsText =>
    ["selector", "text", "wait_for"]
  | .assertElementHasClass | .assertElementNotHasClass => ["selector", "class", "wait_for"]
  | .assertElementCount => ["selector", "count"]
  | .assertJsErrors => ["present"]
  | .assertJsErrorsCount => ["count"]
  | .back | .forward | .refreshPage | .showCursor | .showKeys | .getLog | .closeWindow
  | .acceptAlert | .dismissAlert | .closeAlert | .assertAlertPresent | .assertAlertNotPresent => []
  | .setValues | .fill | .log => []

/-- No name stands for two parameters. -/
theorem parameters_nodup (op : Operation) : op.parameters.Nodup := by
  cases op <;> decide

end Operation

namespace Action

/-- What an operation does depends on its parameters only. -/
theorem ofOperation_agree (config : Config) {op : Operation}
    (hop : op ∉ [Operation.log, .setValues, .fill]) {a b : Arguments}
    (h : a.Agree op.parameters b) : ofOperation config op a = ofOperation config op b := by
  cases op with
  | log | setValues | fill => exact absurd hop (by decide)
  | back | forward | refreshPage | showCursor | showKeys | getLog | closeWindow | acceptAlert
  | dismissAlert | closeAlert | assertAlertPresent | assertAlertNotPresent => rfl
  | go | assertUrl => simp only [ofOperation, h.text 0 "url" rfl]
  | goto =>
    simp only [ofOperation, h.text 0 "url" rfl, h.text? 1 "wait_for_visible" rfl,
      h.text? 2 "wait_for_presence" rfl]
  | click | clear | moveTo | hover =>
    simp only [ofOperation, settled, selector, h.text 0 "selector" rfl]
  | clickAll | assertExists | assertFound | assertNotFound | assertChecked | assertNotChecked =>
    simp only [ofOperation, selector, h.text 0 "selector" rfl]
  | setValue =>
    simp only [ofOperation, settled, selector, h.text 0 "selector" rfl, h.text 1 "value" rfl,
      h.boolOr 2 "clear" rfl, h.boolOr 3 "blur" rfl, h.boolOr 4 "typing" rfl]
  | setSelectByText =>
    simp only [ofOperation, settled, selector, h.text 0 "selector" rfl, h.text 1 "text" rfl]
  | setSelectize =>
    simp only [ofOperation, selector, h.text 0 "selector" rfl, h.text 1 "text" rfl]
  | fillOtp => simp only [ofOperation, selector, h.text 0 "selector" rfl, h.text 1 "code" rfl]
  | sendKey =>
    simp only [ofOperation, settled, selector, h.text 0 "selector" rfl, h.text 1 "key" rfl]
  | scrollToElement =>
    simp only [ofOperation, settled, selector, h.text 0 "selector" rfl, h.int? 1 "offset" rfl]
  | scrollBrowser =>
    simp only [ofOperation, scrolling, h.int 0 "amount" rfl, h.text? 1 "direction" rfl]
  | js => simp only [ofOperation, h.text 0 "script" rfl]
  | wait => simp only [ofOperation, span, h.double 0 "seconds" rfl]
  | waitForPresence | waitForVisible | waitForInvisible | waitForClickable | waitForKo =>
    simp only [ofOperation, waiting, selector, h.text 0 "selector" rfl, h.timeout 1 rfl]
  | waitForText =>
    simp only [ofOperation, waiting, selector, h.text 0 "selector" rfl, h.text 1 "text" rfl,
      h.timeout 2 rfl]
  | waitForTextInValue | waitForValue =>
    simp only [ofOperation, waiting, selector, h.text 0 "selector" rfl, h.text 1 "value" rfl,
      h.timeout 2 rfl]
  | waitForTitle => simp only [ofOperation, waiting, h.text 0 "title" rfl, h.timeout 1 rfl]
  | waitForUrl => simp only [ofOperation, waiting, h.text 0 "url" rfl, h.timeout 1 rfl]
  | waitForOpacity =>
    simp only [ofOperation, waiting, selector, h.text 0 "selector" rfl, h.double 1 "value" rfl,
      h.timeout 2 rfl]
  | waitForAlert => simp only [ofOperation, waiting, h.timeout 0 rfl]
  | screenshot => simp only [ofOperation, h.text? 0 "path" rfl]
  | switchToWindow => simp only [ofOperation, h.nat 0 "index" rfl]
  | newWindow => simp only [ofOperation, h.text? 0 "url" rfl]
  | assertTitle => simp only [ofOperation, h.text 0 "title" rfl]
  | assertTextInPage | assertTextNotInPage | assertTextInLog | assertTextNotInLog =>
    simp only [ofOperation, h.text 0 "text" rfl]
  | assertVisible | assertNotVisible =>
    simp only [ofOperation, assertingVisible, selector, h.text 0 "selector" rfl, h.timeout 1 rfl]
  | assertValueOfElement | assertValueOfElements =>
    simp only [ofOperation, asserting, selector, h.text 0 "selector" rfl, h.text 1 "value" rfl,
      h.text? 2 "wait_for" rfl]
  | assertTextInElement | assertTextInElements | assertElementContainsText =>
    simp only [ofOperation, asserting, selector, h.text 0 "selector" rfl, h.text 1 "text" rfl,
      h.text? 2 "wait_for" rfl]
  | assertElementHasClass | assertElementNotHasClass =>
    simp only [ofOperation, asserting, selector, h.text 0 "selector" rfl, h.text 1 "class" rfl,
      h.text? 2 "wait_for" rfl]
  | assertElementCount =>
    simp only [ofOperation, selector, h.text 0 "selector" rfl, h.nat 1 "count" rfl]
  | assertJsErrors => simp only [ofOperation, h.boolOr 0 "present" rfl]
  | assertJsErrorsCount =>
    simp only [ofOperation, h.param 0 "count" rfl, h.nat 0 "count" rfl]

end Action

namespace Operation

variable {σ : Type}

/-- An operation does the same with arguments that agree on its parameters. -/
theorem perform_agree (s : Session σ) {op : Operation}
    (hop : op ∉ [Operation.log, .setValues, .fill]) {a b : Arguments}
    (h : a.Agree op.parameters b) : op.perform s a = op.perform s b := by
  rw [perform, perform, Action.ofOperation_agree s.config hop h]

/-- Values in a list and an object that holds them under the names of the parameters are the same to
an operation: the session gets the same calls in the same order, and the result is the same to the
text of its error.  Values behind the last parameter have no name and are not read. -/
theorem perform_object_eq_list (s : Session σ) {op : Operation}
    (hop : op ∉ [Operation.log, .setValues, .fill]) (called : String) {values : List Value}
    {fields : List (String × Value)} (hnull : ∀ v ∈ values, v.isNull = false)
    (hsingle : ∀ fs, values ≠ [.object fs]) (hfields : fields.Perm (op.parameters.zip values))
    (w : World (σ × List Call)) :
    op.perform s.traced ⟨called, [.object fields]⟩ w = op.perform s.traced ⟨called, values⟩ w := by
  have agree := Arguments.agree_object called op.parameters_nodup hnull hsingle hfields
  rw [perform_agree s.traced hop agree]

/-! ## A form with one field -/

/-- A page with one empty field, and nothing from outside. -/
def formWorld : World (Page × List Call) :=
  ⟨(⟨false, "", "", "", [("#name", [⟨"", "", none, false, true, true, .zero false⟩])], [], [], [],
    .null, []⟩, []), .still⟩

/-- The fields of the object stand in another order than the values of the list. -/
theorem perform_object_eq_list_reordered :
    let values := [.text "#name", .text "Ada", .bool false]
    let fields := [("value", .text "Ada"), ("clear", .bool false), ("selector", .text "#name")]
    let page := (Page.session .usual).traced
    (∀ v ∈ values, v.isNull = false) ∧ (∀ fs, values ≠ [.object fs]) ∧
      fields.Perm (setValue.parameters.zip values) ∧
      setValue.perform page ⟨"set_value", [.object fields]⟩ formWorld
        = setValue.perform page ⟨"set_value", values⟩ formWorld ∧
      (setValue.perform page ⟨"set_value", values⟩ formWorld).2.session.2
        = [.waitFor (.presence "#name") 30000000000,
          .setValue "#name" "Ada" ⟨false, true, false⟩] := by
  intro values fields page
  have hnull : ∀ v ∈ values, v.isNull = false := by decide
  have hsingle : ∀ fs, values ≠ [.object fs] := by
    intro fs h
    have single : values.length = 1 := congrArg List.length h
    exact absurd single (by decide)
  have hfields : fields.Perm (setValue.parameters.zip values) := by
    have swapped : (fields.take 2 ++ fields.drop 2).Perm (fields.drop 2 ++ fields.take 2) :=
      List.perm_append_comm
    exact swapped
  refine ⟨hnull, hsingle, hfields, ?_, by decide +kernel⟩
  exact perform_object_eq_list (Page.session .usual) (by decide) "set_value" hnull hsingle hfields
    formWorld

end Operation

end PageScript
