import PageScript.Proofs.Expression.EvalToken
import PageScript.Proofs.Expression.Recording
import PageScript.Proofs.Literal.Scalar
import PageScript.Proofs.Text.Splitting

/-!
# Calls in expressions

`callText name rs` is the expression that calls the function imported under a name with arguments
that are written as literals, a comma and a blank between them.  It invokes the function with values
(`Resolver.Invokes`) if, whatever function has the name, resolving the expression calls that
function with the values and records what it returns.

The text of the arguments is cut at every comma before the literals are read.  So the function gets
the values exactly if no text among them holds a comma and every integer fits without its sign; and
only a name that a tag can spell is found at all (`Resolver.IsTag`).
-/

namespace PageScript

namespace Resolver

/-! ## Names and bodies -/

/-- The expression that calls a function with literals as arguments. -/
def callText (name : String) (literals : List (List Char)) : String :=
  name ++ "|" ++ String.ofList (List.intercalate [',', ' '] literals)

/-- A name that a tag can spell and that has no meaning of its own. -/
structure IsTag (name : String) : Prop where
  unsplit : '|' ∉ name.toList
  trimmed : Text.trimmed name = name
  not_eval : name ≠ "eval"
  not_vars : name ≠ "vars"

/-- Resolving the expression calls the function that is imported under the name with the values, and
records what it returns. -/
def Invokes (r : Resolver) (body name : String) (args : List Value) : Prop :=
  ∀ (f : Callable) (scope : Scope), scope.names.function? name = some f →
    r.resolve body scope = (do
      let v ← outside (f args)
      modify fun scope => { scope with names := scope.names.record name v }
      return v : Resolving Value) scope

theorem parts_call {name : String} (h : '|' ∉ name.toList) (rest : String) :
    parts (name ++ "|" ++ rest) = (Text.trimmed name, Text.trimmed rest) := by
  have text : (name ++ "|" ++ rest).toList = name.toList ++ '|' :: rest.toList := by
    simp [String.toList_append]
  rw [parts, text, Text.splitOnce_append h]
  rfl

/-- No tag holds a bar. -/
theorem bar_not_mem_tag (body : String) : '|' ∉ (parts body).1.toList := by
  rw [parts]
  cases hsplit : Text.splitOnce '|' body.toList with
  | none =>
    rw [Text.trimmed, String.toList_ofList]
    exact fun h => Text.not_mem_of_splitOnce hsplit (Text.mem_of_mem_trim h)
  | some halves =>
    rw [String.toList_ofList]
    exact fun h => (Text.splitOnce_eq_some hsplit).2 (Text.mem_of_mem_trim h)

/-- The tag of a call is the name only if a tag can spell the name. -/
theorem of_tag_call {name rest : String} (h : (parts (name ++ "|" ++ rest)).1 = name) :
    '|' ∉ name.toList ∧ Text.trimmed name = name := by
  have unsplit := bar_not_mem_tag (name ++ "|" ++ rest)
  rw [h] at unsplit
  rw [parts_call unsplit] at h
  exact ⟨unsplit, h⟩

/-! ## Calling -/

variable {r : Resolver} {name rest : String} {args values : List Value} {f : Callable}
  {scope : Scope}

/-- An imported function is called with the arguments that the text is read as. -/
theorem evaluate_imported (heval : name ≠ "eval") (hf : scope.names.function? name = some f)
    (hargs : callArguments rest = .ok args) :
    r.evaluate name rest scope = outside (f args) scope := by
  have looked : (get : Resolving Scope) scope = (.ok scope, scope) := rfl
  have imported : scope.names.isImported name = true := by simp [Namespace.isImported, hf]
  rw [evaluate, Lockstep.bind_ok looked, if_neg heval, if_pos imported, hargs]
  dsimp only
  rw [Namespace.call, hf]

/-- The expression of a call whose name a tag can spell invokes the function. -/
theorem IsTag.invokes (h : IsTag name) (hargs : callArguments (Text.trimmed rest) = .ok args) :
    r.Invokes (name ++ "|" ++ rest) name args := by
  intro f scope hf
  have split := parts_call h.unsplit rest
  rw [h.trimmed] at split
  rw [resolve_other (by rw [split]; exact h.not_vars), split]
  dsimp only
  have called := evaluate_imported (r := r) h.not_eval hf hargs
  obtain ⟨result, after, hcall⟩ : ∃ result after, outside (f args) scope = (result, after) :=
    ⟨_, _, rfl⟩
  rw [hcall] at called
  cases result with
  | ok v => rw [Lockstep.bind_ok called, Lockstep.bind_ok hcall]
  | error e => rw [Lockstep.bind_error called, Lockstep.bind_error hcall]

/-- A call whose arguments cannot be read fails and leaves everything as it was. -/
theorem IsTag.refuses {e : Error} (h : IsTag name) (hf : scope.names.function? name = some f)
    (hargs : callArguments (Text.trimmed rest) = .error e) :
    r.resolve (name ++ "|" ++ rest) scope = (.error e, scope) := by
  have split := parts_call h.unsplit rest
  rw [h.trimmed] at split
  have looked : (get : Resolving Scope) scope = (.ok scope, scope) := rfl
  have imported : scope.names.isImported name = true := by simp [Namespace.isImported, hf]
  have failed : r.evaluate name (Text.trimmed rest) scope = (.error e, scope) := by
    rw [evaluate, Lockstep.bind_ok looked, if_neg h.not_eval, if_pos imported, hargs]
    rfl
  rw [resolve_other (by rw [split]; exact h.not_vars), split]
  exact Lockstep.bind_error failed _

/-- What an expression that invokes the function does where the function returns a value at once. -/
theorem Invokes.returns {body : String} (h : r.Invokes body name args)
    (hf : scope.names.function? name = some f) {v : Value} (hv : f args = pure v) :
    r.resolve body scope = (.ok v, { scope with names := scope.names.record name v }) := by
  rw [h f scope hf, hv]
  rfl

/-- A scope in which nothing but one function is known. -/
def scopeOf (name : String) (f : Callable) : Scope :=
  ⟨⟨[(name, f)], []⟩, .still⟩

theorem function?_scopeOf (name : String) (f : Callable) :
    (scopeOf name f).names.function? name = some f := by
  simp [scopeOf, Namespace.function?]

/-- An expression that invokes a function by its name has the name for its tag, and records. -/
theorem Invokes.tag {body : String} (h : r.Invokes body name args) :
    (parts body).1 = name ∧ name ≠ "vars" := by
  have recorded := resolve_names (h.returns (function?_scopeOf name fun _ => pure .null) rfl)
  have journal : [(name, Value.null)] = entryOf body .null := congrArg Namespace.journal recorded
  rw [entryOf] at journal
  split at journal
  · cases journal
  · next hvars =>
    cases journal
    exact ⟨rfl, hvars⟩

/-- An expression that invokes a function does not read a literal. -/
theorem Invokes.not_eval {body : String} (h : r.Invokes body name args) : name ≠ "eval" := by
  rintro rfl
  have answer (v : Value) :
      (Literal.parse (parts body).2 : Except Error Value) = .ok v := by
    have hv := h.returns (function?_scopeOf "eval" fun _ => pure v) rfl
    rw [resolve_other (by rw [h.tag.1]; decide), h.tag.1] at hv
    have read := r.evaluate_eval (parts body).2 (scopeOf "eval" fun _ => pure v)
    cases hparse : Literal.parse (parts body).2 with
    | ok w =>
      rw [hparse] at read
      rw [Lockstep.bind_ok read] at hv
      have same : (.ok w : Except Error Value) = .ok v := congrArg Prod.fst hv
      exact same
    | error e =>
      rw [hparse] at read
      rw [Lockstep.bind_error read] at hv
      cases hv
  have both := (answer .null).symm.trans (answer (.bool true))
  cases both

theorem Invokes.isTag (h : r.Invokes (name ++ "|" ++ rest) name values) : IsTag name :=
  ⟨(of_tag_call h.tag.1).1, (of_tag_call h.tag.1).2, h.not_eval, h.tag.2⟩

/-- A call invokes the function with the values that the text of its arguments is read as, and with
no others. -/
theorem Invokes.arguments (h : r.Invokes (name ++ "|" ++ rest) name values)
    (hargs : callArguments (Text.trimmed rest) = .ok args) : args = values := by
  classical
  have known := function?_scopeOf name fun given => pure (.bool (decide (given = values)))
  have expected := h.returns (v := .bool true) known (by simp)
  have actual := (h.isTag.invokes (r := r) hargs).returns known rfl
  have same : (.ok (.bool (decide (args = values))) : Except Error Value) = .ok (.bool true) :=
    congrArg Prod.fst (actual.symm.trans expected)
  simpa using same

/-- A call invokes the function exactly if a tag can spell its name and the text of the arguments is
read as the values. -/
theorem invokes_iff : r.Invokes (name ++ "|" ++ rest) name values ↔
    IsTag name ∧ callArguments (Text.trimmed rest) = .ok values := by
  refine ⟨fun h => ⟨h.isTag, ?_⟩, fun h => h.1.invokes h.2⟩
  cases hargs : callArguments (Text.trimmed rest) with
  | ok args => rw [h.arguments hargs]
  | error e =>
    have known := function?_scopeOf name fun _ => pure .null
    have returned := h.returns known rfl
    rw [h.isTag.refuses known hargs] at returned
    cases returned

/-- The same where the text is known to be read. -/
theorem invokes_call_iff (hargs : callArguments (Text.trimmed rest) = .ok args) :
    r.Invokes (name ++ "|" ++ rest) name values ↔ IsTag name ∧ args = values := by
  rw [invokes_iff, hargs, Except.ok.injEq]

/-! ## Literals as arguments -/

open Literal (ScalarLiteral)

/-- Arguments in literals begin with no blank and no bracket, and end with no blank. -/
theorem intercalate_literals {v : Value} {vs : List Value} {cs : List Char}
    {literals : List (List Char)} (h : List.Forall₂ ScalarLiteral (v :: vs) (cs :: literals)) :
    ∃ c tail, List.intercalate [',', ' '] (cs :: literals) = c :: tail ∧
      Literal.startsLexeme c = true ∧ Text.EndsInInk (c :: tail) := by
  induction literals generalizing v vs cs with
  | nil =>
    cases h with
    | cons hv _ =>
      obtain ⟨c, tail, rfl, hc⟩ := hv.head
      exact ⟨c, tail, List.intercalate_singleton, hc, hv.ends⟩
  | cons second literals ih =>
    cases h with
    | cons hv hvs =>
      cases hvs with
      | cons hw hws =>
        obtain ⟨c, tail, rfl, hc⟩ := hv.head
        obtain ⟨d, more, heq, -, hends⟩ := ih (.cons hw hws)
        refine ⟨c, tail ++ [',', ' '] ++ d :: more, ?_, hc, ?_⟩
        · rw [List.intercalate_cons_cons, heq]
          rfl
        · exact hends.append (c :: tail ++ [',', ' '])

theorem trim_intercalate {c : Char} {tail : List Char} (hc : Literal.startsLexeme c = true)
    (h : Text.EndsInInk (c :: tail)) : Text.trim (c :: tail) = c :: tail := by
  have back := Text.trimRight_append_blank h Text.blank_nil
  rw [List.append_nil] at back
  rw [Text.trim, Text.trimLeft_cons_ink (Literal.isBlank_of_startsLexeme hc), back]

/-- Arguments that begin with no bracket are cut at the commas. -/
theorem callArguments_split {c : Char} {tail : List Char} (hc : Literal.startsLexeme c = true)
    (h : Text.EndsInInk (c :: tail)) :
    callArguments (Text.trimmed (String.ofList (c :: tail)))
      = .ok ((Text.splitAll ',' (c :: tail)).map Literal.coerce) := by
  have bracket : c ≠ '[' := by
    rintro rfl
    cases Literal.opens_of_startsLexeme hc
  have trimmed := trim_intercalate hc h
  rw [Text.trimmed, String.toList_ofList, trimmed, callArguments, String.toList_ofList, trimmed]
  split
  · next heq => cases heq
  · next heq =>
    cases heq
    exact absurd rfl bracket
  · rfl

/-- Arguments in literals are read as the values exactly if no text holds a comma and every integer
fits without its sign. -/
theorem callArguments_literals_iff {vs : List Value} {literals : List (List Char)} (hne : vs ≠ [])
    (h : List.Forall₂ ScalarLiteral vs literals) :
    ∃ args, callArguments (Text.trimmed (String.ofList (List.intercalate [',', ' '] literals)))
        = .ok args ∧
      (args = vs ↔ (∀ s, .text s ∈ vs → ',' ∉ s.toList) ∧
        ∀ n : Int, .int n ∈ vs → (n.natAbs : Int) ≤ Reading.int64Max) := by
  have gap : ',' ∉ [' '] := by decide
  cases h with
  | nil => exact absurd rfl hne
  | @cons v cs vs literals hv hvs =>
    have row := List.Forall₂.cons hv hvs
    obtain ⟨c, tail, heq, hc, hends⟩ := intercalate_literals row
    rw [heq]
    refine ⟨_, callArguments_split hc hends, ?_⟩
    rw [← heq, ← Literal.map_coerce_iff row, ← Literal.no_comma_iff row]
    have whole (hfree : ∀ piece ∈ cs :: literals, ',' ∉ piece) :
        (Text.splitAll ',' (List.intercalate [',', ' '] (cs :: literals))).map Literal.coerce
          = (cs :: literals).map Literal.coerce := by
      rw [Text.splitAll_intercalate gap hfree, List.map_cons, List.map_cons, List.map_map]
      exact congrArg _ (List.map_congr_left fun piece _ => Literal.coerce_blank piece)
    constructor
    · intro hsame
      have count := congrArg List.length hsame
      rw [List.length_map, List.length_cons, hvs.length_eq] at count
      have free := Text.not_mem_of_length_splitAll gap count
      exact ⟨free, (whole free).symm.trans hsame⟩
    · rintro ⟨hfree, hsame⟩
      exact (whole hfree).trans hsame

/-- The call of a function with literals as arguments invokes it with their values exactly if its
name can be a tag, no text among them holds a comma, and every integer fits into 64 bits without its
sign. -/
theorem callText_invokes_iff (r : Resolver) (name : String) {vs : List Value}
    {literals : List (List Char)} (hne : vs ≠ []) (h : List.Forall₂ ScalarLiteral vs literals) :
    r.Invokes (callText name literals) name vs ↔
      IsTag name ∧ (∀ s, .text s ∈ vs → ',' ∉ s.toList) ∧
        ∀ n : Int, .int n ∈ vs → (n.natAbs : Int) ≤ Reading.int64Max := by
  obtain ⟨args, hargs, hsame⟩ := callArguments_literals_iff hne h
  rw [callText, invokes_call_iff hargs, hsame]

theorem isTag_args : IsTag "args" := ⟨by decide, by decide +kernel, by decide, by decide⟩

/-- A text with a quote, a negative integer and a constant. -/
theorem callText_invokes_iff_quoted :
    let values : List Value := [.text "it's", .int (-7), .null]
    let literals := ["\"it's\"".toList, "-7".toList, "None".toList]
    values ≠ [] ∧ List.Forall₂ ScalarLiteral values literals ∧
      callText "args" literals = "args|\"it's\", -7, None" ∧
      ∀ r : Resolver, r.Invokes (callText "args" literals) "args" values := by
  intro values literals
  have text : ScalarLiteral (.text "it's") "\"it's\"".toList :=
    @ScalarLiteral.text '"' "it's" [['i'], ['t'], ['\''], ['s']] rfl
      (.cons (.plain (by decide) (by decide)) (.cons (.plain (by decide) (by decide))
        (.cons (.plain (by decide) (by decide)) (.cons (.plain (by decide) (by decide)) .nil))))
  have row : List.Forall₂ ScalarLiteral values literals :=
    .cons text (.cons (.integer (-7)) (.cons .none .nil))
  have nonempty : values ≠ [] := List.cons_ne_nil _ _
  refine ⟨nonempty, row, by decide +kernel, fun r => ?_⟩
  refine (callText_invokes_iff r "args" nonempty row).mpr ⟨isTag_args, ?_, ?_⟩
  · intro s hs
    simp only [values, List.mem_cons, List.not_mem_nil, or_false, reduceCtorEq] at hs
    rcases hs with ⟨⟨⟩⟩ | ⟨⟨⟩⟩
    decide
  · intro n hn
    obtain rfl : n = -7 := by simpa [values, Value.int] using hn
    decide

/-- A comma inside a text ends the argument: the function gets two texts with half a pair of quotes
each. -/
theorem comma_splits_argument :
    ScalarLiteral (.text "a,b") "'a,b'".toList ∧ callText "args" ["'a,b'".toList] = "args|'a,b'" ∧
      ∀ r : Resolver, ¬ r.Invokes "args|'a,b'" "args" [.text "a,b"] ∧
        r.Invokes "args|'a,b'" "args" [.text "'a", .text "b'"] := by
  have text : ScalarLiteral (.text "a,b") "'a,b'".toList :=
    @ScalarLiteral.text '\'' "a,b" [['a'], [','], ['b']] rfl
      (.cons (.plain (by decide) (by decide)) (.cons (.plain (by decide) (by decide))
        (.cons (.plain (by decide) (by decide)) .nil)))
  have split : callArguments (Text.trimmed "'a,b'") = .ok [.text "'a", .text "b'"] := rfl
  refine ⟨text, by decide +kernel, fun r => ⟨fun h => ?_, isTag_args.invokes split⟩⟩
  have call : r.Invokes ("args" ++ "|" ++ "'a,b'") "args" [.text "a,b"] := h
  have same : [Value.text "'a", .text "b'"] = [.text "a,b"] := call.arguments split
  exact absurd (congrArg List.length same) (by decide)

end Resolver

end PageScript
