import PageScript.Proofs.Literal.Numeral

/-!
# Lexemes

Which texts are strings, constants and marked strings, said without the readers' way of giving back
a rest.  `Lexeme v cs` says that `cs` as a whole is a literal for `v` that holds no other literal.

For every reader there are two statements: what it takes is a lexeme, and a lexeme in front of a
text that stops readers is taken whole.
-/

namespace PageScript

namespace Literal

open Text (Blank isBlank trimLeft)

/-! ## Strings -/

/-- The reader of a string goes on behind a character, from one mode to the next. -/
inductive Mode.Passes (quote : Char) : Mode → Char → Mode → Prop where
  | plain {c : Char} (hc : c ≠ quote) (hb : c ≠ '\\') : Passes quote .plain c .plain
  | backslash (hq : '\\' ≠ quote) : Passes quote .plain '\\' .escape
  | escape {c : Char} {next : Mode} (h : next ≠ .escape) : Passes quote .escape c next
  | digit {missing code d : Nat} {c : Char} {next : Mode} (hd : Reading.digitValue c = some d)
      (h : next ≠ .escape) : Passes quote (.hex missing code) c next

section

variable {raw : Bool} {quote c : Char} {done cs : List Char} {r : List Char × List Char}

theorem string_escape (raw : Bool) (quote c : Char) (done : List Char) :
    ∃ next after, next ≠ Mode.escape ∧
      ∀ more, string raw quote .escape done (c :: more) = string raw quote next after more := by
  simp only [string]
  cases raw with
  | true => exact ⟨.plain, _, by simp, fun _ => rfl⟩
  | false =>
    cases escaped? c with
    | some e => exact ⟨.plain, _, by simp, fun _ => rfl⟩
    | none =>
      cases hexWidth? c with
      | some width => exact ⟨.hex width 0, _, by simp, fun _ => rfl⟩
      | none =>
        by_cases hn : c = '\n'
        · exact ⟨.plain, done, by simp, fun _ => by simp [hn]⟩
        · exact ⟨.plain, c :: '\\' :: done, by simp, fun _ => by simp [hn]⟩

theorem string_digit {missing code : Nat}
    (h : string raw quote (.hex missing code) done (c :: cs) = .ok r) :
    ∃ d next after, Reading.digitValue c = some d ∧ next ≠ Mode.escape ∧
      ∀ more, string raw quote (.hex missing code) done (c :: more)
        = string raw quote next after more := by
  simp only [string] at h ⊢
  cases hd : Reading.digitValue c with
  | none => rw [hd] at h; cases h
  | some d =>
    rw [hd] at h
    dsimp only at h ⊢
    by_cases hm : missing ≠ 1
    · exact ⟨d, .hex _ _, _, rfl, by simp, fun _ => if_pos hm⟩
    · rw [if_neg hm] at h
      split at h
      · next hs => exact ⟨d, .plain, _, rfl, by simp, fun _ => by rw [if_neg hm, if_pos hs]⟩
      · cases h

/-- A character closes the string, or the reader goes on behind it, whatever follows. -/
theorem string_step {mode : Mode} (h : string raw quote mode done (c :: cs) = .ok r) :
    (mode = .plain ∧ c = quote ∧ r = (done.reverse, cs)) ∨
      ∃ next after, mode.Passes quote c next ∧
        ∀ more, string raw quote mode done (c :: more) = string raw quote next after more := by
  cases mode with
  | plain =>
    by_cases hq : c = quote
    · rw [string, if_pos hq] at h
      cases h
      exact .inl ⟨rfl, hq, rfl⟩
    · by_cases hb : c = '\\'
      · subst hb
        exact .inr ⟨_, _, .backslash hq, fun _ => by rw [string, if_neg hq, if_pos rfl]⟩
      · exact .inr ⟨_, _, .plain hq hb, fun _ => by rw [string, if_neg hq, if_neg hb]⟩
  | escape =>
    obtain ⟨next, after, hnext, hstep⟩ := string_escape raw quote c done
    exact .inr ⟨next, after, .escape hnext, hstep⟩
  | hex missing code =>
    obtain ⟨d, next, after, hd, hnext, hstep⟩ := string_digit h
    exact .inr ⟨next, after, .digit hd hnext, hstep⟩

end

/-- A string reader takes the text up to a closing quote, whatever follows. -/
theorem string_ok {raw : Bool} {quote : Char} :
    ∀ (cs : List Char) (mode : Mode) (done : List Char) {s rest : List Char},
      string raw quote mode done cs = .ok (s, rest) →
      ∃ body, cs = body ++ quote :: rest ∧
        ∀ more, string raw quote mode done (body ++ quote :: more) = .ok (s, more)
  | [], mode, done, s, rest, h => by
    cases mode <;> cases h
  | c :: cs, mode, done, s, rest, h => by
    rcases string_step h with ⟨rfl, rfl, heq⟩ | ⟨next, after, -, hstep⟩
    · cases heq
      exact ⟨[], rfl, fun more => by simp [string]⟩
    · rw [hstep] at h
      obtain ⟨body, rfl, hmore⟩ := string_ok cs next after h
      exact ⟨c :: body, rfl, fun more => (hstep _).trans (hmore more)⟩

/-! ## Names and marked strings -/

/-- The text behind an opening quote, up to the closing one and with it, is a string. -/
def Quoted (raw : Bool) (quote : Char) (s body : List Char) : Prop :=
  string raw quote .plain [] body = .ok (s, [])

theorem quoted_of_string {raw : Bool} {quote : Char} {cs s rest : List Char}
    (h : string raw quote .plain [] cs = .ok (s, rest)) :
    ∃ body, cs = body ++ rest ∧ Quoted raw quote s body := by
  obtain ⟨body, rfl, hmore⟩ := string_ok cs .plain [] h
  exact ⟨body ++ [quote], by simp, hmore []⟩

theorem Quoted.ends {raw : Bool} {quote : Char} {s body : List Char} (h : Quoted raw quote s body) :
    ∃ inner, body = inner ++ [quote] := by
  obtain ⟨inner, heq, -⟩ := string_ok body .plain [] h
  exact ⟨inner, heq⟩

theorem Quoted.read {raw : Bool} {quote : Char} {s body : List Char} (h : Quoted raw quote s body)
    (more : List Char) : string raw quote .plain [] (body ++ more) = .ok (s, more) := by
  obtain ⟨inner, rfl, hmore⟩ := string_ok body .plain [] h
  rw [List.append_assoc]
  exact hmore more

/-- The text is one of the three constants. -/
inductive Constant : Value → List Char → Prop where
  | none : Constant .null "None".toList
  | yes : Constant (.bool true) "True".toList
  | no : Constant (.bool false) "False".toList

theorem Constant.name_chars {v : Value} {cs : List Char} (h : Constant v cs) :
    ∀ c ∈ cs, isNameChar c = true := by
  cases h <;> exact Text.forall_of_all (by decide +kernel)

theorem Constant.plain {v : Value} {cs : List Char} (h : Constant v cs) : cs ≠ [] ∧ Plain cs := by
  refine ⟨by cases h <;> decide +kernel, fun c hc hmark => ?_⟩
  have hname := (mark_facts c hmark).1
  rw [h.name_chars c hc] at hname
  cases hname

/-- The text is a string with a mark in front of its opening quote. -/
inductive Marked : Value → List Char → Prop where
  | mk {mark s body : List Char} {q : Char} (hchars : ∀ c ∈ mark, isNameChar c = true)
      (hmark : stringMarks.contains (mark.map Char.toLower) = true) (hq : isQuote q = true)
      (hbody : Quoted ((mark.map Char.toLower).contains 'r') q s body) :
      Marked (.text (String.ofList s)) (mark ++ q :: body)

theorem constant_of_ok {word cs rest rest' : List Char} {v : Value}
    (h : (if word = "True".toList then .ok (.bool true, rest')
      else if word = "False".toList then .ok (.bool false, rest')
      else if word = "None".toList then .ok (.null, rest')
      else .error (.problem (.notALiteral (String.ofList word)) cs.length) : Read Value)
        = .ok (v, rest)) : rest' = rest ∧ Constant v word := by
  by_cases ht : word = "True".toList
  · rw [if_pos ht] at h
    cases h
    exact ⟨rfl, ht ▸ .yes⟩
  · by_cases hf : word = "False".toList
    · rw [if_neg ht, if_pos hf] at h
      cases h
      exact ⟨rfl, hf ▸ .no⟩
    · by_cases hn : word = "None".toList
      · rw [if_neg ht, if_neg hf, if_pos hn] at h
        cases h
        exact ⟨rfl, hn ▸ .none⟩
      · rw [if_neg ht, if_neg hf, if_neg hn] at h
        cases h

/-- What the reader of names takes is a constant or a marked string. -/
theorem name_ok {cs rest : List Char} {v : Value} (h : name cs = .ok (v, rest)) :
    ∃ used, cs = used ++ rest ∧ (Constant v used ∨ Marked v used) := by
  have whole : cs = cs.takeWhile isNameChar ++ cs.dropWhile isNameChar :=
    List.takeWhile_append_dropWhile.symm
  have hchars : ∀ c ∈ cs.takeWhile isNameChar, isNameChar c = true := fun c hc => mem_takeWhile hc
  simp only [name] at h
  cases hd : cs.dropWhile isNameChar with
  | nil =>
    rw [hd] at h
    obtain ⟨rfl, hconst⟩ := constant_of_ok h
    exact ⟨_, hd ▸ whole, .inl hconst⟩
  | cons q body =>
    rw [hd] at h
    dsimp only at h
    split at h
    · next hq =>
      rw [Bool.and_eq_true] at hq
      cases hs : string (((cs.takeWhile isNameChar).map Char.toLower).contains 'r') q .plain []
          body with
      | error f => rw [hs] at h; cases h
      | ok r =>
        obtain ⟨s, rest'⟩ := r
        rw [hs] at h
        cases h
        obtain ⟨used, rfl, hquoted⟩ := quoted_of_string hs
        refine ⟨cs.takeWhile isNameChar ++ q :: used, ?_, .inr (.mk hchars hq.2 hq.1 hquoted)⟩
        rw [List.append_assoc, List.cons_append, ← hd]
        exact whole
    · obtain ⟨rfl, hconst⟩ := constant_of_ok h
      exact ⟨_, hd ▸ whole, .inl hconst⟩

theorem Constant.read {v : Value} {cs more : List Char} (h : Constant v cs) (hm : Stops more) :
    name (cs ++ more) = .ok (v, more) := by
  obtain ⟨ht, hd⟩ := takeWhile_append_stops h.name_chars (fun c hc => (mark_facts c hc).1) hm
  simp only [name, ht, hd]
  have hquote : ∀ c rest, more = c :: rest → isQuote c = false := by
    rintro c rest rfl
    cases hb : isBlank c with
    | false => exact hm.not_quote (Text.trimLeft_cons_ink hb rest)
    | true =>
      cases hq : isQuote c with
      | false => rfl
      | true => rw [isBlank_of_isQuote hq] at hb; cases hb
  cases more with
  | nil => cases h <;> rfl
  | cons c rest =>
    have hc := hquote c rest rfl
    simp only [hc, Bool.false_and, Bool.false_eq_true, if_false]
    cases h <;> rfl

theorem Marked.read {v : Value} {cs : List Char} (h : Marked v cs) (more : List Char) :
    name (cs ++ more) = .ok (v, more) := by
  cases h with
  | @mk mark s body q hchars hmark hq hbody =>
    have hqn : isNameChar q = false := (mark_facts q (mem_marks_of_isQuote hq)).1
    have ht : (mark ++ q :: body ++ more).takeWhile isNameChar = mark := by
      rw [List.append_assoc, List.takeWhile_append_of_pos hchars, List.cons_append,
        List.takeWhile_cons_of_neg (by simp [hqn]), List.append_nil]
    have hd : (mark ++ q :: body ++ more).dropWhile isNameChar = q :: (body ++ more) := by
      rw [List.append_assoc, List.dropWhile_append_of_pos hchars, List.cons_append,
        List.dropWhile_cons_of_neg (by simp [hqn])]
    simp only [name, ht, hd, hq, hmark, Bool.and_self, if_true, hbody.read more]

/-! ## Rows of strings -/

/-- The text is one string or more, with nothing but blanks between them. -/
inductive Strings : List Char → List Char → Prop where
  | one {q : Char} {s body : List Char} (hq : isQuote q = true) (hbody : Quoted false q s body) :
      Strings s (q :: body)
  | more {q : Char} {s body ws t rest : List Char} (hq : isQuote q = true)
      (hbody : Quoted false q s body) (hws : Blank ws) (hrest : Strings t rest) :
      Strings (s ++ t) (q :: (body ++ (ws ++ rest)))

theorem Strings.head {s cs : List Char} (h : Strings s cs) :
    ∃ q body, isQuote q = true ∧ cs = q :: body := by
  cases h with
  | one hq _ => exact ⟨_, _, hq, rfl⟩
  | more hq _ _ _ => exact ⟨_, _, hq, rfl⟩

/-- What the reader of adjacent strings takes is a row of strings. -/
theorem strings_ok : ∀ (fuel : Nat) (q : Char) (cs : List Char) {s rest : List Char},
    cs.length ≤ fuel → isQuote q = true → strings fuel q cs = .ok (s, rest) →
    ∃ used, q :: cs = used ++ rest ∧ Strings s used
  | 0, q, cs, s, rest, hfuel, _, h => by
    have : cs = [] := List.length_eq_zero_iff.mp (Nat.le_zero.mp hfuel)
    subst this
    cases h
  | fuel + 1, q, cs, s, rest, hfuel, hq, h => by
    rw [strings] at h
    cases hs : string false q .plain [] cs with
    | error f => rw [hs] at h; cases h
    | ok r =>
      obtain ⟨first, behind⟩ := r
      rw [hs] at h
      dsimp only at h
      obtain ⟨body, rfl, hbody⟩ := quoted_of_string hs
      have one : ∃ used, q :: (body ++ behind) = used ++ behind ∧ Strings first used :=
        ⟨q :: body, rfl, .one hq hbody⟩
      obtain ⟨ws, hws, hbehind⟩ := Text.exists_blank_append behind
      cases ht : trimLeft behind with
      | nil =>
        rw [ht] at h
        cases h
        exact one
      | cons d more =>
        rw [ht] at h
        dsimp only at h
        by_cases hd : isQuote d = true
        · rw [if_pos hd] at h
          have hlen : more.length ≤ fuel := by
            have := congrArg List.length hbehind
            rw [ht, List.length_append, List.length_cons] at this
            rw [List.length_append] at hfuel
            omega
          cases hm : strings fuel d more with
          | error f => rw [hm] at h; cases h
          | ok r =>
            obtain ⟨t, rest'⟩ := r
            rw [hm] at h
            cases h
            obtain ⟨used, hused, hstrings⟩ := strings_ok fuel d more hlen hd hm
            refine ⟨q :: (body ++ (ws ++ used)), ?_, .more hq hbody hws hstrings⟩
            rw [hbehind, ht, hused]
            simp
        · rw [if_neg hd] at h
          cases h
          exact one

/-- A row of strings is read whole in front of a text that stops readers. -/
theorem Strings.read {s cs : List Char} (h : Strings s cs) : ∀ {q : Char} {body more : List Char}
    {fuel : Nat}, cs = q :: body → Stops more → (body ++ more).length ≤ fuel →
    strings fuel q (body ++ more) = .ok (s, more) := by
  induction h with
  | @one q s body hq hbody =>
    rintro _ _ more fuel ⟨rfl, rfl⟩ hm hfuel
    cases fuel with
    | zero => rw [strings, hbody.read more]
    | succ fuel =>
      rw [strings, hbody.read more]
      dsimp only
      cases ht : trimLeft more with
      | nil => rfl
      | cons d rest =>
        dsimp only
        rw [if_neg (by rw [hm.not_quote ht]; simp)]
  | @more q s body ws t rest hq hbody hws hrest ih =>
    rintro _ _ more fuel ⟨rfl, rfl⟩ hm hfuel
    obtain ⟨d, inner, hd, rfl⟩ := hrest.head
    have hlen : (inner ++ more).length + 1 ≤ fuel := by
      simp only [List.length_append, List.length_cons] at hfuel ⊢
      omega
    obtain ⟨fuel, rfl⟩ : ∃ f, fuel = f + 1 := ⟨fuel - 1, by omega⟩
    have hink : trimLeft (ws ++ d :: inner ++ more) = d :: (inner ++ more) := by
      rw [List.append_assoc, Text.trimLeft_append hws, List.cons_append,
        Text.trimLeft_cons_ink (isBlank_of_isQuote hd)]
    rw [strings, List.append_assoc, hbody.read]
    dsimp only
    rw [hink]
    dsimp only
    rw [if_pos hd, ih rfl hm (by omega)]

/-! ## Lexemes -/

/-- The text is a literal that holds no other literal. -/
inductive Lexeme : Value → List Char → Prop where
  | strings {s cs : List Char} (h : Strings s cs) : Lexeme (.text (String.ofList s)) cs
  | number {v : Value} {c : Char} {cs : List Char} (hc : startsNumber c = true)
      (h : Numeral false v (c :: cs)) : Lexeme v (c :: cs)
  | signed {v : Value} {sign c : Char} {ws cs : List Char} (hsign : sign = '-' ∨ sign = '+')
      (hws : Blank ws) (hc : startsNumber c = true) (h : Numeral (sign = '-') v (c :: cs)) :
      Lexeme v (sign :: (ws ++ c :: cs))
  | constant {v : Value} {cs : List Char} (h : Constant v cs) : Lexeme v cs
  | marked {v : Value} {cs : List Char} (h : Marked v cs) : Lexeme v cs

end Literal

end PageScript
