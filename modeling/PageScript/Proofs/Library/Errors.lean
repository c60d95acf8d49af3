import PageScript.Library.Standard
import PageScript.Proofs.Expression.Growth
import PageScript.Proofs.Operation.Errors

/-!
# The errors of functions

A function of the standard modules looks at the values that it is given before it takes anything
from outside.  So it fails because the values are unfit, or, if it asks for a line, because what is
typed is no text; never because a command is unknown (`Library.standard_familiar`).
-/

namespace PageScript

variable {α : Type}

/-- The function does not fail because a command is unknown. -/
def Callable.Familiar (f : Callable) : Prop := ∀ args, StaysFamiliar (fun _ => True) (f args)

/-- No function of the registry fails because a command is unknown. -/
def Registry.Familiar (r : Registry) : Prop := ∀ f, r.Offers f → Callable.Familiar f

namespace Library

theorem checkCount_familiar (function : String) (args : List Value) (lo hi : Nat) :
    Familiar (checkCount function args lo hi) := by
  unfold checkCount
  split
  · exact .of_error rfl
  · exact .of_ok ()

theorem int_familiar (function : String) (v : Value) : Familiar (int function v) := by
  unfold int
  cases int? v with
  | some n => exact .of_ok n
  | none => exact .of_error rfl

theorem double_familiar (function : String) (v : Value) : Familiar (double function v) := by
  unfold double
  cases double? v with
  | some x => exact .of_ok x
  | none => exact .of_error rfl

theorem pure_familiar {f : List Value → Except Error Value} (h : ∀ args, Familiar (f args)) :
    Callable.Familiar (pure f) := fun args _ _ => ⟨h args, trivial⟩

theorem taking_familiar {check : List Value → Except Error α} (h : ∀ args, Familiar (check args))
    (f : α → Taking Value) : Callable.Familiar (taking check f) := by
  intro args s _
  refine ⟨?_, trivial⟩
  unfold taking
  cases hcheck : check args with
  | error e => exact .of_error (h args e hcheck)
  | ok a => exact .of_ok _

theorem inclusive_familiar (args : List Value) : Familiar (inclusive args) := by
  refine .of_bind (checkCount_familiar _ _ _ _) fun _ => .of_bind (int_familiar _ _) fun lo =>
    .of_bind (int_familiar _ _) fun hi => ?_
  dsimp only
  split
  · exact .of_error rfl
  · exact .of_ok _

theorem range_familiar (args : List Value) : Familiar (range args) := by
  refine .of_bind (checkCount_familiar _ _ _ _) fun _ => ?_
  split
  · exact .of_bind (int_familiar _ _) fun _ => .of_ok _
  · exact .of_bind (int_familiar _ _) fun _ => .of_bind (int_familiar _ _) fun _ => .of_ok _
  · exact .of_bind (int_familiar _ _) fun _ => .of_bind (int_familiar _ _) fun _ =>
      .of_bind (int_familiar _ _) fun _ => .of_ok _
  · exact .of_error rfl

theorem stepped_familiar (args : List Value) : Familiar (stepped args) := by
  refine .of_bind (range_familiar args) fun r => ?_
  dsimp only
  split
  · exact .of_error rfl
  · exact .of_ok _

theorem randrange_familiar : Callable.Familiar randrange := by
  intro args
  unfold randrange
  cases hstepped : stepped args with
  | error e => exact .of_throw (stepped_familiar args e hstepped)
  | ok r =>
    refine .of_bind (fun s hs => ⟨.of_ok _, hs⟩) fun v => ?_
    split
    · exact .of_pure _
    · exact .of_throw rfl

theorem bounds_familiar (args : List Value) : Familiar (bounds args) :=
  .of_bind (checkCount_familiar _ _ _ _) fun _ => .of_bind (double_familiar _ _) fun _ =>
    .of_bind (double_familiar _ _) fun _ => .of_ok _

theorem pool_familiar (args : List Value) : Familiar (pool args) := by
  unfold pool
  split
  · exact .of_error rfl
  · exact .of_ok _

theorem portion_familiar (args : List Value) : Familiar (portion args) := by
  refine .of_bind (checkCount_familiar _ _ _ _) fun _ => ?_
  split
  · refine .of_bind (int_familiar _ _) fun k => ?_
    dsimp only
    split
    · exact .of_error rfl
    · exact .of_ok _
  · exact .of_error rfl

theorem length_familiar (function : String) (default : Nat) (args : List Value) :
    Familiar (length function default args) := by
  refine .of_bind (checkCount_familiar _ _ _ _) fun _ => ?_
  split
  · exact .of_ok _
  · refine .of_bind (int_familiar _ _) fun n => ?_
    dsimp only
    split
    · exact .of_error rfl
    · exact .of_ok _

theorem recased_familiar (function : String) (change : String → String) :
    Callable.Familiar (recased function change) :=
  pure_familiar fun _ => .of_bind (checkCount_familiar _ _ _ _) fun _ => .of_ok _

theorem format_familiar (args : List Value) : Familiar (format args) := by
  refine .of_bind (checkCount_familiar _ _ _ _) fun _ => ?_
  dsimp only
  split
  · exact .of_ok _
  · exact .of_error rfl

theorem ask_familiar : Callable.Familiar ask := by
  intro args
  unfold ask
  cases hcount : checkCount "prompt" args 0 1 with
  | error e => exact .of_throw (checkCount_familiar "prompt" args 0 1 e hcount)
  | ok _ =>
    refine .of_bind (fun s hs => ⟨.of_ok _, hs⟩) fun _ =>
      .of_bind (fun s hs => ⟨.of_ok _, hs⟩) fun line => ?_
    cases lineText? line with
    | some s => exact .of_pure _
    | none => exact .of_throw rfl

/-- A function of the standard modules fails because of its arguments, or because what is typed is no
text. -/
theorem standard_familiar : standard.Familiar := by
  rintro f ⟨m, hm, name, hf⟩
  simp only [standard, List.mem_cons, List.not_mem_nil, or_false] at hm
  rcases hm with rfl | rfl | rfl | rfl | rfl
  · simp only [chance, List.mem_cons, List.not_mem_nil, or_false, Prod.mk.injEq] at hf
    rcases hf with ⟨-, rfl⟩ | ⟨-, rfl⟩ | ⟨-, rfl⟩ | ⟨-, rfl⟩ | ⟨-, rfl⟩ | ⟨-, rfl⟩ | ⟨-, rfl⟩
    · exact taking_familiar inclusive_familiar _
    · exact taking_familiar (checkCount_familiar _ · _ _) _
    · exact taking_familiar bounds_familiar _
    · exact taking_familiar pool_familiar _
    · exact randrange_familiar
    · exact taking_familiar portion_familiar _
    · exact taking_familiar (fun _ => .of_ok _) _
  · simp only [text, List.mem_cons, List.not_mem_nil, or_false, Prod.mk.injEq] at hf
    rcases hf with ⟨-, rfl⟩ | ⟨-, rfl⟩ | ⟨-, rfl⟩ | ⟨-, rfl⟩
    · exact taking_familiar (length_familiar _ _) _
    · exact taking_familiar (length_familiar _ _) _
    · exact recased_familiar _ _
    · exact recased_familiar _ _
  · simp only [time, List.mem_cons, List.not_mem_nil, or_false, Prod.mk.injEq] at hf
    rcases hf with ⟨-, rfl⟩ | ⟨-, rfl⟩
    · exact taking_familiar (checkCount_familiar _ · _ _) _
    · exact taking_familiar format_familiar _
  · simp only [environment, List.mem_cons, List.not_mem_nil, or_false, Prod.mk.injEq] at hf
    obtain ⟨-, rfl⟩ := hf
    exact taking_familiar (fun _ => .of_bind (checkCount_familiar _ _ _ _) fun _ => .of_ok _) _
  · simp only [questions, List.mem_cons, List.not_mem_nil, or_false, Prod.mk.injEq] at hf
    obtain ⟨-, rfl⟩ := hf
    exact ask_familiar

end Library

end PageScript
