import PageScript.Fake.Data
import PageScript.Library.Standard

/-!
# What is made of single steps

An action on the surroundings takes what it takes step by step: it draws a number, looks at the
clock, looks up an environment variable, takes a typed line, puts something out or lets time pass.
`Taking.Made` says that nothing else is done.  Whatever these steps have, and is kept when actions are
put one after the other, all such actions have.

The standard modules are made of such steps (`Library.standard_made`), and so is the built-in source
of synthetic data (`Fake.generate_made`).
-/

namespace PageScript

open Surroundings

/-- The action is put together from single steps. -/
inductive Taking.Made : {α : Type} → Taking α → Prop where
  | pure {α : Type} (x : α) : Taking.Made (Pure.pure x)
  | bind {α β : Type} {action : Taking α} {f : α → Taking β} (haction : Taking.Made action)
      (hf : ∀ x, Taking.Made (f x)) : Taking.Made (action >>= f)
  | draw (bound : Nat) : Taking.Made (Surroundings.draw bound)
  | look : Taking.Made Surroundings.look
  | fromEnvironment (name : String) : Taking.Made (Surroundings.fromEnvironment name)
  | takeLine : Taking.Made Surroundings.takeLine
  | putOut (o : Output) : Taking.Made (Surroundings.putOut o)
  | passTime (ns : Nat) : Taking.Made (Surroundings.passTime ns)

/-- An action that may fail is put together from single steps. -/
def Attempt.Made {α : Type} (action : Attempt α) : Prop := Taking.Made action.run

/-- The function is made of single steps, whatever it is given. -/
def Callable.Made (f : Callable) : Prop := ∀ args, Attempt.Made (f args)

/-- Every function of the registry has the property. -/
def Registry.All (good : Callable → Prop) (r : Registry) : Prop :=
  ∀ m ∈ r.modules, ∀ name f, (name, f) ∈ m.functions → good f

/-- Every function of the registry is made of single steps. -/
abbrev Registry.Made (r : Registry) : Prop := r.All Callable.Made

/-- The source of synthetic data is made of single steps. -/
def FakeSource.Made (fake : FakeSource) : Prop := ∀ category, Taking.Made (fake category)

namespace Taking.Made

variable {α β : Type}

theorem map {action : Taking α} (h : action.Made) (f : α → β) :
    Taking.Made (action >>= fun x => Pure.pure (f x)) :=
  h.bind fun x => .pure (f x)

theorem times {action : Taking α} (h : action.Made) : ∀ n, Taking.Made (Surroundings.times action n)
  | 0 => .pure []
  | n + 1 => h.bind fun _ => (times h n).map _

theorem drawUnit : Taking.Made Surroundings.drawUnit := (draw _).map _

theorem pickOr (default : α) (items : List α) : Taking.Made (Surroundings.pickOr default items) :=
  ((draw _).map _).map _

theorem drawItems : ∀ (n : Nat) (xs : List α), Taking.Made (Surroundings.drawItems n xs)
  | 0, _ => .pure []
  | _ + 1, [] => .pure []
  | n + 1, x :: xs => (draw _).bind fun k => (drawItems n ((x :: xs).eraseIdx k)).map _

theorem rest : Taking.Made Surroundings.rest := (draw 1000).bind fun _ => passTime _

/-- An action that cannot fail, as one that may. -/
theorem lift {action : Taking α} (h : action.Made) : Attempt.Made (ExceptT.lift action) :=
  h.map Except.ok

end Taking.Made

namespace Attempt.Made

variable {α β : Type}

theorem of_pure (x : α) : Attempt.Made (Pure.pure x) := .pure (Except.ok x)

theorem of_throw (e : Error) : Attempt.Made (α := α) (throw e) := .pure (Except.error e)

theorem of_bind {action : Attempt α} {f : α → Attempt β} (haction : action.Made)
    (hf : ∀ x, Attempt.Made (f x)) : Attempt.Made (action >>= f) := by
  have chained : (action >>= f).run = action.run >>= ExceptT.bindCont f := rfl
  rw [Attempt.Made, chained]
  refine Taking.Made.bind haction fun r => ?_
  cases r with
  | ok x => exact hf x
  | error e => exact .pure _

end Attempt.Made

/-! ## The standard modules -/

namespace Library

theorem pure_made (f : List Value → Except Error Value) : Callable.Made (Library.pure f) :=
  fun args => Taking.Made.pure (f args)

theorem taking_made {α : Type} {check : List Value → Except Error α} {f : α → Taking Value}
    (hf : ∀ x, Taking.Made (f x)) : Callable.Made (taking check f) := by
  intro args
  cases hcheck : check args with
  | error e =>
    have refused : (taking check f args).run = Pure.pure (Except.error e) := by
      funext s
      simp only [taking, hcheck]
      rfl
    rw [Attempt.Made, refused]
    exact .pure _
  | ok x =>
    have taken : (taking check f args).run = f x >>= fun v => Pure.pure (Except.ok v) := by
      funext s
      simp only [taking, hcheck]
      rfl
    rw [Attempt.Made, taken]
    exact (hf x).map _

theorem drawText_made (alphabet : List Char) (length : Nat) :
    Taking.Made (drawText alphabet length) :=
  ((Taking.Made.pickOr _ _).times length).map _

theorem ask_made : Callable.Made ask := by
  intro args
  unfold ask
  cases checkCount "prompt" args 0 1 with
  | error e => exact .of_throw e
  | ok _ =>
    refine .of_bind (Taking.Made.putOut _).lift fun _ => ?_
    refine .of_bind Taking.Made.takeLine.lift fun line => ?_
    cases lineText? line with
    | some s => exact .of_pure _
    | none => exact .of_throw _

theorem randrange_made : Callable.Made randrange := by
  intro args
  unfold randrange
  cases stepped args with
  | error e => exact .of_throw e
  | ok r =>
    refine .of_bind ((Taking.Made.draw _).map _).lift fun v => ?_
    split
    · exact .of_pure _
    · exact .of_throw _

/-- Every standard function is made of single steps. -/
theorem standard_made : standard.Made := by
  intro m hm name f hf
  simp only [standard, List.mem_cons, List.not_mem_nil, or_false] at hm
  rcases hm with rfl | rfl | rfl | rfl | rfl
  · simp only [chance, List.mem_cons, List.not_mem_nil, or_false, Prod.mk.injEq] at hf
    rcases hf with ⟨-, rfl⟩ | ⟨-, rfl⟩ | ⟨-, rfl⟩ | ⟨-, rfl⟩ | ⟨-, rfl⟩ | ⟨-, rfl⟩ | ⟨-, rfl⟩
    · exact taking_made fun r => ((Taking.Made.draw _).map _).map _
    · exact taking_made fun _ => Taking.Made.drawUnit.map _
    · exact taking_made fun _ => Taking.Made.drawUnit.map _
    · exact taking_made fun vs => .pickOr _ _
    · exact randrange_made
    · exact taking_made fun _ => (Taking.Made.drawItems _ _).map _
    · exact taking_made fun vs => (Taking.Made.drawItems _ _).map _
  · simp only [text, List.mem_cons, List.not_mem_nil, or_false, Prod.mk.injEq] at hf
    rcases hf with ⟨-, rfl⟩ | ⟨-, rfl⟩ | ⟨-, rfl⟩ | ⟨-, rfl⟩
    · exact taking_made fun n => (drawText_made _ _).map _
    · exact taking_made fun n => (drawText_made _ _).map _
    · exact pure_made _
    · exact pure_made _
  · simp only [time, List.mem_cons, List.not_mem_nil, or_false, Prod.mk.injEq] at hf
    rcases hf with ⟨-, rfl⟩ | ⟨-, rfl⟩
    · exact taking_made fun _ => Taking.Made.look.map _
    · exact taking_made fun format => Taking.Made.look.map _
  · simp only [environment, List.mem_cons, List.not_mem_nil, or_false, Prod.mk.injEq] at hf
    obtain ⟨-, rfl⟩ := hf
    refine taking_made fun args => (Taking.Made.fromEnvironment _).bind fun found => ?_
    cases found with
    | some v => exact .pure _
    | none => exact .pure _
  · simp only [questions, List.mem_cons, List.not_mem_nil, or_false, Prod.mk.injEq] at hf
    obtain ⟨-, rfl⟩ := hf
    exact ask_made

end Library

/-! ## Synthetic data -/

namespace Fake

theorem word_made (list : List String) : Taking.Made (word list) := .pickOr _ _

theorem between_made (lo hi : Nat) : Taking.Made (between lo hi) := (Taking.Made.draw _).map _

theorem digits_made (count : Nat) : Taking.Made (digits count) :=
  ((Taking.Made.draw _).times count).map _

theorem sentence_made : Taking.Made sentence :=
  (between_made _ _).bind fun n => ((word_made _).times n).map _

theorem paragraph_made : Taking.Made paragraph :=
  (between_made _ _).bind fun n => (sentence_made.times n).map _

theorem userName_made : Taking.Made userName :=
  (word_made _).bind fun _ => (word_made _).bind fun _ => (between_made _ _).map _

theorem streetAddress_made : Taking.Made streetAddress :=
  (between_made _ _).bind fun _ => (word_made _).bind fun _ => (word_made _).map _

theorem cardNumber_made : Taking.Made cardNumber := ((Taking.Made.draw _).times 14).map _

theorem date_made : Taking.Made date := (Taking.Made.draw _).bind fun _ => Taking.Made.look.map _

theorem identifier_made : Taking.Made identifier := by
  have hex : ∀ n, Taking.Made (times (draw 16) n >>= fun ds => Pure.pure (ds.map Nat.digitChar)) :=
    fun n => ((Taking.Made.draw 16).times n).map _
  refine (hex 8).bind fun a => (hex 4).bind fun b => (hex 3).bind fun c => ?_
  refine (Taking.Made.pickOr _ _).bind fun variant => ?_
  exact (hex 3).bind fun d => (hex 12).map _

theorem text?_made {category : String} {action : Taking String}
    (h : text? category = some action) : action.Made := by
  unfold text? at h
  split at h
  all_goals simp only [Option.some.injEq, reduceCtorEq] at h
  all_goals subst h
  · exact word_made _
  · exact word_made _
  · exact (word_made _).bind fun _ => (word_made _).map _
  · exact userName_made
  · exact userName_made.bind fun _ => (word_made _).map _
  · exact ((Taking.Made.pickOr _ _).times _).map _
  · exact (between_made _ _).bind fun _ => (digits_made _).bind fun _ => (digits_made _).map _
  · exact streetAddress_made
  · exact word_made _
  · exact word_made _
  · exact digits_made _
  · exact digits_made _
  · exact streetAddress_made.bind fun _ => (word_made _).bind fun _ =>
      (word_made _).bind fun _ => (digits_made _).map _
  · exact word_made _
  · exact (word_made _).bind fun _ => (word_made _).map _
  · exact word_made _
  · exact sentence_made
  · exact paragraph_made
  · exact paragraph_made
  · exact (word_made _).bind fun _ => (word_made _).map _
  · exact date_made
  · exact cardNumber_made
  · exact (digits_made _).bind fun _ => (digits_made _).bind fun _ => (digits_made _).map _
  · exact identifier_made

/-- The built-in source is made of single steps. -/
theorem generate_made : FakeSource.Made generate := by
  intro category
  unfold generate
  cases h : text? category with
  | some action => exact (text?_made h).map _
  | none =>
    dsimp only
    split
    · exact (Taking.Made.draw _).map _
    · split
      · exact (Taking.Made.draw _).map _
      · exact .pure _

end Fake

end PageScript
