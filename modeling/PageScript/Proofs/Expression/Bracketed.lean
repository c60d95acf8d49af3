import PageScript.Library.Chance
import PageScript.Proofs.Expression.Invoking

/-!
# Calls with a list in brackets

Arguments that begin with a bracket are not cut at commas.  They are read whole, as one literal, and
the function gets the one value that is read (`Resolver.one_of_callArguments`).  A comma behind the
closing bracket does not make a second argument of what follows it: it makes the literal a tuple, and
a tuple is a list.

So a call that gives a list and integers behind it (`Resolver.callText`) gives the function a single
list, of which the list is the first item (`Resolver.gathered`).  Sampling needs a list and a number
as two arguments, and no such call can give it both.
-/

namespace PageScript

namespace Literal

open Text (blank_nil isBlank)

/-- The text is a literal of the list in brackets. -/
def Bracketed (vs : List Value) (cs : List Char) : Prop :=
  ∃ body, cs = '[' :: body ∧ SpellsItems ']' vs body

/-- Literals with a comma and a blank between them are a row, behind a blank. -/
theorem spellsTop_intercalate {vs : List Value} {cs : List Char} {literals : List (List Char)}
    (h : List.Forall₂ Spells vs (cs :: literals)) :
    SpellsTop vs (' ' :: List.intercalate [',', ' '] (cs :: literals)) := by
  have gap : isBlank ' ' = true := rfl
  induction literals generalizing vs cs with
  | nil =>
    cases h with
    | cons hv hvs =>
      cases hvs
      have row := SpellsTop.last (.blank gap hv) blank_nil
      rw [List.intercalate_singleton]
      rwa [List.append_nil] at row
  | cons second literals ih =>
    cases h with
    | cons hv hvs =>
      have row := SpellsTop.more (.blank gap hv) blank_nil (ih hvs)
      rw [List.intercalate_cons_cons, List.append_assoc]
      exact row

/-- Between brackets they are the list. -/
theorem bracketed_intercalate {vs : List Value} {literals : List (List Char)}
    (h : List.Forall₂ Spells vs literals) :
    Bracketed vs ('[' :: (List.intercalate [',', ' '] literals ++ [']'])) := by
  have gap : isBlank ' ' = true := rfl
  refine ⟨_, rfl, ?_⟩
  induction h with
  | nil => exact .close blank_nil
  | @cons v cs vs literals hv hvs ih =>
    cases literals with
    | nil =>
      cases hvs
      rw [List.intercalate_singleton]
      exact .last hv blank_nil
    | cons second literals =>
      have row := SpellsItems.more hv blank_nil (ih.blanks (blank_nil.cons gap))
      rw [List.intercalate_cons_cons, List.append_assoc, List.append_assoc]
      exact row

/-- A list in brackets and a row of literals behind it are a tuple. -/
theorem Bracketed.row {vs ws : List Value} {list cs : List Char} {literals : List (List Char)}
    (hlist : Bracketed vs list) (h : List.Forall₂ Spells ws (cs :: literals)) :
    SpellsWhole (.list (.list vs :: ws)) (List.intercalate [',', ' '] (list :: cs :: literals)) := by
  obtain ⟨body, rfl, hitems⟩ := hlist
  have tuple := SpellsWhole.tuple (.list hitems) blank_nil (spellsTop_intercalate h)
  rw [List.intercalate_cons_cons, List.append_assoc]
  exact tuple

theorem forall₂_spells {ks : List Int} {literals : List (List Char)}
    (h : List.Forall₂ SpellsInteger ks literals)
    (hks : ∀ k ∈ ks, (k.natAbs : Int) ≤ Reading.int64Max) :
    List.Forall₂ Spells (ks.map .int) literals := by
  induction h with
  | nil => exact .nil
  | cons hk _ ih =>
    obtain ⟨hfirst, hrest⟩ := List.forall_mem_cons.mp hks
    exact .cons (.lexeme (hk.lexeme hfirst)) (ih hrest)

end Literal

namespace Resolver

open Literal (Bracketed SpellsInteger SpellsWhole)

variable {rest : List Char} {args : List Value}

/-! ## Reading the arguments -/

/-- Arguments that begin with a bracket are one literal. -/
theorem callArguments_bracket (rest : List Char) :
    ∃ body, (∀ v, SpellsWhole v ('[' :: body) ↔ SpellsWhole v ('[' :: rest)) ∧
      callArguments (Text.trimmed (String.ofList ('[' :: rest)))
        = match Literal.parse (String.ofList ('[' :: body)) with
          | .error e => .error e
          | .ok (.list vs) => .ok [.list vs]
          | .ok v => .error (.expression ("expected a bracketed list, got " ++ v.toText)) := by
  have trim (rest : List Char) : ∃ body, Text.trim ('[' :: rest) = '[' :: body :=
    ⟨_, (congrArg Text.trimRight (Text.trimLeft_cons_ink rfl rest)).trans
      (Text.trimRight_append_ink [] rfl rest)⟩
  obtain ⟨once, honce⟩ := trim rest
  obtain ⟨body, hbody⟩ := trim once
  refine ⟨body, fun v => ?_, ?_⟩
  · rw [← hbody, Literal.spellsWhole_trim_iff, ← honce, Literal.spellsWhole_trim_iff]
  · rw [Text.trimmed, String.toList_ofList, honce, callArguments, String.toList_ofList, hbody]
    rfl

/-- Arguments that begin with a bracket are one argument. -/
theorem one_of_callArguments
    (h : callArguments (Text.trimmed (String.ofList ('[' :: rest))) = .ok args) :
    args.length = 1 := by
  obtain ⟨body, -, hread⟩ := callArguments_bracket rest
  rw [hread] at h
  split at h
  · cases h
  · cases h
    rfl
  · cases h

/-- If they are the literal of a list, that is the argument. -/
theorem callArguments_list {vs : List Value} (h : SpellsWhole (.list vs) ('[' :: rest)) :
    callArguments (Text.trimmed (String.ofList ('[' :: rest))) = .ok [.list vs] := by
  obtain ⟨body, hsame, hread⟩ := callArguments_bracket rest
  have parsed : Literal.parse (String.ofList ('[' :: body)) = .ok (.list vs) := by
    rw [Literal.parse_eq_ok_iff, String.toList_ofList, hsame]
    exact h
  rw [hread, parsed]

/-! ## Calling -/

/-- The items of the one argument: those of the list if nothing follows it, and else the list and
what follows. -/
def gathered (vs : List Value) : List Int → List Value
  | [] => vs
  | k :: ks => .list vs :: .int k :: ks.map .int

theorem intercalate_bracket {vs : List Value} {list : List Char} (h : Bracketed vs list)
    (literals : List (List Char)) :
    ∃ rest, List.intercalate [',', ' '] (list :: literals) = '[' :: rest := by
  obtain ⟨body, rfl, -⟩ := h
  cases literals with
  | nil => exact ⟨body, List.intercalate_singleton⟩
  | cons cs literals => exact ⟨_, List.intercalate_cons_cons⟩

theorem spellsWhole_gathered {vs : List Value} {list : List Char} {ks : List Int}
    {literals : List (List Char)} (hlist : Bracketed vs list)
    (h : List.Forall₂ SpellsInteger ks literals)
    (hks : ∀ k ∈ ks, (k.natAbs : Int) ≤ Reading.int64Max) :
    SpellsWhole (.list (gathered vs ks)) (List.intercalate [',', ' '] (list :: literals)) := by
  cases h with
  | nil =>
    obtain ⟨body, rfl, hitems⟩ := hlist
    rw [List.intercalate_singleton]
    exact (Literal.Spells.list hitems).whole
  | cons hk h => exact hlist.row (Literal.forall₂_spells (.cons hk h) hks)

theorem isTag_sample : IsTag "sample" :=
  ⟨by decide, by decide +kernel, by decide, by decide⟩

/-- A sample of one argument is refused. -/
theorem sample_of_one {f : Callable} (hf : Library.chance.function? "sample" = some f)
    (hargs : args.length = 1) (outside : Surroundings) :
    f args outside = (.error (Library.wrongCount "sample" 2 2 1), outside) := by
  have refused : Library.portion args = .error (Library.wrongCount "sample" 2 2 1) := by
    rw [Library.portion, Library.checkCount, hargs]
    rfl
  cases hf
  unfold Library.taking
  dsimp only [ExceptT.mk]
  rw [refused]

/-- So is the call that gives the sampling function one argument. -/
theorem resolve_sample_of_one {r : Resolver} {f : Callable} {rest : String} {scope : Scope}
    (hf : Library.chance.function? "sample" = some f) (hscope : scope.names.function? "sample" = some f)
    (hread : callArguments (Text.trimmed rest) = .ok args) (hargs : args.length = 1) :
    r.resolve ("sample" ++ "|" ++ rest) scope
      = (.error (Library.wrongCount "sample" 2 2 1), scope) := by
  have refused : outside (f args) scope = (.error (Library.wrongCount "sample" 2 2 1), scope) := by
    unfold outside
    rw [sample_of_one hf hargs]
  rw [isTag_sample.invokes hread f scope hscope]
  exact Lockstep.bind_error refused _

/-- A call with a list in brackets and integers behind it passes the list as an argument of its own
exactly if there are no integers.  Integers that fit without their sign are passed inside the one
argument, behind the list.  A sample is never drawn by such a call. -/
theorem listCall_invokes_iff (r : Resolver) (name : String) {vs : List Value} {list : List Char}
    {ks : List Int} {literals : List (List Char)} (hlist : Bracketed vs list)
    (hks : List.Forall₂ SpellsInteger ks literals) :
    (r.Invokes (callText name (list :: literals)) name (.list vs :: ks.map .int) ↔
        IsTag name ∧ ks = []) ∧
      ((∀ k ∈ ks, (k.natAbs : Int) ≤ Reading.int64Max) → ∀ args,
        (r.Invokes (callText name (list :: literals)) name args ↔
          IsTag name ∧ args = [.list (gathered vs ks)])) ∧
      ∀ scope : Scope, scope.names.function? "sample" = Library.chance.function? "sample" →
        ∃ e, r.resolve (callText "sample" (list :: literals)) scope = (.error e, scope) := by
  obtain ⟨rest, heq⟩ := intercalate_bracket hlist literals
  refine ⟨?_, fun hfits args => ?_, fun scope hscope => ?_⟩
  · rw [callText, heq, invokes_iff]
    refine and_congr_right fun _ => ⟨fun hargs => ?_, ?_⟩
    · have one := one_of_callArguments hargs
      simpa using one
    · rintro rfl
      cases hks
      rw [List.intercalate_singleton] at heq
      have whole := spellsWhole_gathered hlist .nil (by simp)
      rw [List.intercalate_singleton, heq] at whole
      exact callArguments_list whole
  · have whole := spellsWhole_gathered hlist hks hfits
    rw [heq] at whole
    rw [callText, heq, invokes_call_iff (callArguments_list whole), eq_comm (a := args)]
  · obtain ⟨f, hf⟩ : ∃ f, Library.chance.function? "sample" = some f := ⟨_, rfl⟩
    rw [hf] at hscope
    rw [callText, heq]
    cases hargs : callArguments (Text.trimmed (String.ofList ('[' :: rest))) with
    | error e => exact ⟨e, isTag_sample.refuses hscope hargs⟩
    | ok args =>
      exact ⟨_, resolve_sample_of_one hf hscope hargs (one_of_callArguments hargs)⟩

/-- A list with a list inside, and two integers behind it, the second in hexadecimal. -/
theorem listCall_invokes_iff_nested :
    let inner : List Value := [.list [], .text "a, b"]
    let literals := ["-3".toList, "0x10".toList]
    Bracketed inner "[[], 'a, b']".toList ∧ List.Forall₂ SpellsInteger [-3, 16] literals ∧
      callText "args" ("[[], 'a, b']".toList :: literals) = "args|[[], 'a, b'], -3, 0x10" ∧
      ∀ r : Resolver, r.Invokes "args|[[], 'a, b'], -3, 0x10" "args"
          [.list [.list inner, .int (-3), .int 16]] ∧
        ¬ r.Invokes "args|[[], 'a, b'], -3, 0x10" "args" [.list inner, .int (-3), .int 16] := by
  intro inner literals
  have comma : Literal.Spells (.text "a, b") "'a, b'".toList :=
    .lexeme (@Literal.lexeme_literalChars '\'' [['a'], [','], [' '], ['b']] "a, b" rfl
      (.cons (.plain (by decide) (by decide)) (.cons (.plain (by decide) (by decide))
        (.cons (.plain (by decide) (by decide)) (.cons (.plain (by decide) (by decide)) .nil)))))
  have list : Bracketed inner "[[], 'a, b']".toList :=
    @Literal.bracketed_intercalate inner ["[]".toList, "'a, b'".toList]
      (.cons (.list (.close Text.blank_nil)) (.cons comma .nil))
  have sixteen : Literal.Digits 16 16 "10".toList :=
    @Reading.digits_toDigits 16 (by decide) 16
  have row : List.Forall₂ SpellsInteger [-3, 16] literals :=
    .cons (Literal.spellsInteger_intText (-3))
      (.cons (.unsigned (.hex (.inl rfl) sixteen)) .nil)
  have text : callText "args" ("[[], 'a, b']".toList :: literals)
      = "args|[[], 'a, b'], -3, 0x10" := by decide +kernel
  refine ⟨list, row, text, fun r => ?_⟩
  obtain ⟨apart, together, -⟩ := listCall_invokes_iff r "args" list row
  rw [text] at apart together
  refine ⟨(together (by decide) _).mpr ⟨isTag_args, rfl⟩, fun h => ?_⟩
  exact absurd (apart.mp h).2 (by decide)

/-- Two of three items cannot be sampled: the call gives the function one argument. -/
theorem sample_not_reached :
    let items : List Value := [.int 1, .int 2, .int 3]
    Literal.parse "[1, 2, 3]" = .ok (.list items) ∧
      ∀ (r : Resolver) (f : Callable), Library.chance.function? "sample" = some f →
        (¬ r.Invokes "sample|[1, 2, 3], 2" "sample" [.list items, .int 2]) ∧
          r.resolve "sample|[1, 2, 3], 2" (scopeOf "sample" f)
            = (.error (.argument "sample() takes 2 arguments (1 given)"), scopeOf "sample" f) := by
  intro items
  have text : "sample" ++ "|" ++ "[1, 2, 3], 2" = "sample|[1, 2, 3], 2" := by decide +kernel
  have message : Library.wrongCount "sample" 2 2 1
      = .argument "sample() takes 2 arguments (1 given)" := by decide +kernel
  have digits : List.Forall₂ SpellsInteger [1, 2, 3] ["1".toList, "2".toList, "3".toList] :=
    .cons (Literal.spellsInteger_intText 1)
      (.cons (Literal.spellsInteger_intText 2) (.cons (Literal.spellsInteger_intText 3) .nil))
  have list : Bracketed items "[1, 2, 3]".toList :=
    Literal.bracketed_intercalate (Literal.forall₂_spells digits (by decide))
  have together : callArguments (Text.trimmed "[1, 2, 3], 2") = .ok [.list [.list items, .int 2]] :=
    callArguments_list (spellsWhole_gathered list (.cons (Literal.spellsInteger_intText 2) .nil)
      (by decide))
  refine ⟨?_, fun r f hf => ?_⟩
  · exact Literal.parse_eq_ok_iff.mpr (spellsWhole_gathered list .nil (by decide))
  rw [← text, ← message]
  refine ⟨fun h => absurd (congrArg List.length (h.arguments together)) (by decide), ?_⟩
  exact resolve_sample_of_one hf (function?_scopeOf "sample" f) together rfl

end Resolver

end PageScript
