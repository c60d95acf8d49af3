import Mathlib.Data.List.TakeWhile
import PageScript.Proofs.Operation.Parameters

/-!
# Parameters given as null

In a list null stands for a parameter that is left out.  It holds a place, and at the end of the
list it does nothing (`Arguments.agree_null`).  So a list is the object that names those of its
values that are not null (`Arguments.agree_present`).

In an object null is a value.  A reader of texts takes it for the empty text and the other readers
refuse it, so that every operation can tell each of its parameters given as null from the parameter
left out (`Operation.null_told_apart`).
-/

namespace PageScript

namespace Arguments

/-- A null behind the values of a list is no argument. -/
theorem param?_list_null {op : String} {values : List Value} (h : ∀ fs, values ≠ [.object fs])
    (i : Nat) (name : String) :
    (⟨op, values ++ [.null]⟩ : Arguments).param? i name
      = (⟨op, values⟩ : Arguments).param? i name := by
  have behind : ∀ fs, values ++ [.null] ≠ [.object fs] := by
    intro fs hfs
    have last := congrArg List.getLast? hfs
    rw [List.getLast?_concat, List.getLast?_singleton] at last
    cases last
  rw [param?_list behind, param?_list h, List.getElem?_append]
  by_cases hi : i < values.length
  · rw [if_pos hi]
  · -- From there on the one place that is filled is filled by null.
    rw [if_neg hi, List.getElem?_eq_none (Nat.le_of_not_lt hi)]
    cases i - values.length <;> rfl

/-- So it changes nothing for the parameters of any operation. -/
theorem agree_null (op : String) (names : List String) {values : List Value}
    (h : ∀ fs, values ≠ [.object fs]) : Agree names ⟨op, values ++ [.null]⟩ ⟨op, values⟩ :=
  ⟨rfl, fun i name _ => param?_list_null h i name⟩

end Arguments

namespace Operation

open Arguments (agree_null agree_present present)

/-! ## Objects -/

/-- A page with one empty field, whose selector is also a number, and nothing from outside. -/
def numberedWorld : World (Page × List Call) :=
  ⟨(⟨false, "", "", "", [("1", [⟨"", "", none, false, true, true, .zero false⟩])], [], [], [],
    .null, []⟩, []), .still⟩

/-- What becomes of an operation there: the error in which it ends and the calls that it makes. -/
def onNumbered (op : Operation) (values : List Value) : Option Error × List Call :=
  let done := op.perform (Page.session .usual).traced ⟨op.name, values⟩ numberedWorld
  (match done.1 with
    | .error e => some e
    | .ok () => none, done.2.session.2)

/-- The parameters in front of one, each the number or the selector of the page. -/
def fieldsBefore (op : Operation) (name : String) : List (String × Value) :=
  (op.parameters.takeWhile (· ≠ name)).map fun earlier => (earlier, .text "1")

theorem not_mem_names_fieldsBefore (op : Operation) (name : String) :
    name ∉ Value.names (op.fieldsBefore name) := by
  intro hmem
  obtain ⟨f, hf, rfl⟩ := List.mem_map.mp hmem
  obtain ⟨earlier, hearlier, rfl⟩ := List.mem_map.mp hf
  exact absurd (List.mem_takeWhile_imp hearlier) (by simp)

/-- Behind the parameters in front of it, null is not the same as nothing. -/
theorem null_told_apart (op : Operation) : ∀ name ∈ op.parameters,
    op.onNumbered [.object (op.fieldsBefore name ++ [(name, .null)])]
      ≠ op.onNumbered [.object (op.fieldsBefore name)] := by
  cases op <;> decide +kernel

/-! ## Lists and objects -/

/-- In a list null means that a parameter is left out: in every session an operation does the same
without the null if it is the last value, and the same with an object that has no field for it.  In
an object null never means that: each parameter of the operation can be told from null. -/
theorem null_absent {op : Operation} (hop : op ∉ [Operation.log, .setValues, .fill]) :
    (∀ (σ : Type) (s : Session σ) (called : String) (values : List Value)
        (w : World (σ × List Call)), (∀ fs, values ≠ [.object fs]) →
      op.perform s.traced ⟨called, values ++ [.null]⟩ w = op.perform s.traced ⟨called, values⟩ w ∧
        ∀ fields : List (String × Value), fields.Perm (present op.parameters values) →
          op.perform s.traced ⟨called, values⟩ w
            = op.perform s.traced ⟨called, [.object fields]⟩ w) ∧
      ∀ name ∈ op.parameters, ∃ fields : List (String × Value), name ∉ Value.names fields ∧
        op.onNumbered [.object (fields ++ [(name, .null)])] ≠ op.onNumbered [.object fields] := by
  refine ⟨fun σ s called values w hsingle => ⟨?_, fun fields hfields => ?_⟩, fun name hname => ?_⟩
  · rw [perform_agree s.traced hop (agree_null called op.parameters hsingle)]
  · rw [perform_agree s.traced hop (agree_present called op.parameters_nodup hsingle hfields)]
  · exact ⟨op.fieldsBefore name, op.not_mem_names_fieldsBefore name, op.null_told_apart name hname⟩

/-- The second null holds the place of a parameter, and the last is behind all values. -/
theorem null_absent_set_value :
    let values := [.text "#name", .text "Ada", .null, .bool false]
    let fields := [("value", .text "Ada"), ("blur", .bool false), ("selector", .text "#name")]
    let page := (Page.session .usual).traced
    setValue ∉ [Operation.log, .setValues, .fill] ∧ (∀ fs, values ≠ [.object fs]) ∧
      fields.Perm (present setValue.parameters values) ∧
      setValue.perform page ⟨"set_value", values ++ [.null]⟩ formWorld
        = setValue.perform page ⟨"set_value", values⟩ formWorld ∧
      setValue.perform page ⟨"set_value", values⟩ formWorld
        = setValue.perform page ⟨"set_value", [.object fields]⟩ formWorld ∧
      (setValue.perform page ⟨"set_value", values⟩ formWorld).2.session.2
        = [.waitFor (.presence "#name") 30000000000,
          .setValue "#name" "Ada" ⟨true, false, false⟩] ∧
      ∃ others : List (String × Value), "typing" ∉ Value.names others ∧
        setValue.onNumbered [.object (others ++ [("typing", .null)])]
          ≠ setValue.onNumbered [.object others] := by
  intro values fields page
  have hop : setValue ∉ [Operation.log, .setValues, .fill] := by decide
  have hsingle : ∀ fs, values ≠ [.object fs] := by
    intro fs h
    have single : values.length = 1 := congrArg List.length h
    exact absurd single (by decide)
  have hfields : fields.Perm (present setValue.parameters values) := by
    have swapped : (fields.take 2 ++ fields.drop 2).Perm (fields.drop 2 ++ fields.take 2) :=
      List.perm_append_comm
    exact swapped
  obtain ⟨listed, named⟩ := null_absent hop
  obtain ⟨last, object⟩ :=
    listed Page (Page.session .usual) "set_value" values formWorld hsingle
  exact ⟨hop, hsingle, hfields, last, object fields hfields, by decide +kernel,
    named "typing" (by decide)⟩

/-- A click without a selector is refused before it is made.  So is one whose selector is null in a
list, but not one whose selector is null in an object. -/
theorem click_null_in_object :
    let refused := (some (.argument "click: missing argument 'selector'"), [])
    click.onNumbered [] = refused ∧ click.onNumbered [.object []] = refused ∧
      click.onNumbered [.null] = refused ∧
      (click.onNumbered [.object [("selector", .null)]]).2
        = [.waitFor (.presence "") 30000000000] := by
  decide +kernel

end Operation

end PageScript
