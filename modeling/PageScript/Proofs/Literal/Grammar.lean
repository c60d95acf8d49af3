import PageScript.Literal.Parser
import PageScript.Proofs.Literal.Lexeme

/-!
# The grammar of literals

`Spells v cs` says that the text `cs` is a literal for the value `v`.  It is the grammar alone: no
rest, no fuel and no faults.  `SpellsItems` are the items of a list, tuple or set behind its first
mark, up to its closing mark and with it, and `SpellsFields` are the fields of a dict behind the
colon of a first key.  Blanks in front belong to a literal, blanks behind it do not.

Every literal begins with a character that is no delimiter (`Spells.head`) and ends with a character
that is no blank (`Spells.ends`), so a literal between blanks and delimiters is told from them.
-/

namespace PageScript

namespace Literal

open Text (Blank isBlank trimLeft EndsInInk)

/-! ## Literals, items and fields -/

mutual

/-- The text is a literal for the value, perhaps with blanks in front. -/
inductive Spells : Value → List Char → Prop where
  | blank {b : Char} {v : Value} {cs : List Char} (hb : isBlank b = true) (h : Spells v cs) :
      Spells v (b :: cs)
  | lexeme {v : Value} {cs : List Char} (h : Lexeme v cs) : Spells v cs
  | list {vs : List Value} {cs : List Char} (h : SpellsItems ']' vs cs) :
      Spells (.list vs) ('[' :: cs)
  | unit {ws : List Char} (hws : Blank ws) : Spells (.list []) ('(' :: (ws ++ [')']))
  | group {v : Value} {cs ws : List Char} (h : Spells v cs) (hws : Blank ws) :
      Spells v ('(' :: (cs ++ (ws ++ [')'])))
  | tuple {v : Value} {vs : List Value} {cs ws rest : List Char} (h : Spells v cs) (hws : Blank ws)
      (hrest : SpellsItems ')' vs rest) : Spells (.list (v :: vs)) ('(' :: (cs ++ (ws ++ ',' :: rest)))
  | empty {ws : List Char} (hws : Blank ws) : Spells (.object []) ('{' :: (ws ++ ['}']))
  | single {v : Value} {cs ws : List Char} (h : Spells v cs) (hws : Blank ws) :
      Spells (.list [v]) ('{' :: (cs ++ (ws ++ ['}'])))
  | set {v : Value} {vs : List Value} {cs ws rest : List Char} (h : Spells v cs) (hws : Blank ws)
      (hrest : SpellsItems '}' vs rest) :
      Spells (.list (distinct (v :: vs))) ('{' :: (cs ++ (ws ++ ',' :: rest)))
  | dict {key : Value} {fs : List (String × Value)} {cs ws rest : List Char} (h : Spells key cs)
      (hws : Blank ws) (hrest : SpellsFields key [] fs rest) :
      Spells (.object fs) ('{' :: (cs ++ (ws ++ ':' :: rest)))

/-- The text is a row of literals up to the closing mark and with it. -/
inductive SpellsItems : Char → List Value → List Char → Prop where
  | close {close : Char} {ws : List Char} (hws : Blank ws) : SpellsItems close [] (ws ++ [close])
  | last {close : Char} {v : Value} {cs ws : List Char} (h : Spells v cs) (hws : Blank ws) :
      SpellsItems close [v] (cs ++ (ws ++ [close]))
  | more {close : Char} {v : Value} {vs : List Value} {cs ws rest : List Char} (h : Spells v cs)
      (hws : Blank ws) (hrest : SpellsItems close vs rest) :
      SpellsItems close (v :: vs) (cs ++ (ws ++ ',' :: rest))

/-- The text is the rest of a dict behind the colon of a key.  The first fields are those so far,
the second those at the end. -/
inductive SpellsFields : Value → List (String × Value) → List (String × Value) → List Char → Prop where
  | last {key v : Value} {k : String} {done : List (String × Value)} {cs ws : List Char}
      (hk : keyText? key = some k) (h : Spells v cs) (hws : Blank ws) :
      SpellsFields key done (Value.insertField k v done) (cs ++ (ws ++ ['}']))
  | comma {key v : Value} {k : String} {done : List (String × Value)} {cs ws vs : List Char}
      (hk : keyText? key = some k) (h : Spells v cs) (hws : Blank ws) (hvs : Blank vs) :
      SpellsFields key done (Value.insertField k v done) (cs ++ (ws ++ ',' :: (vs ++ ['}'])))
  | more {key v next : Value} {k : String} {done fs : List (String × Value)}
      {cs ws ds us rest : List Char} (hk : keyText? key = some k) (h : Spells v cs) (hws : Blank ws)
      (hnext : Spells next ds) (hus : Blank us)
      (hrest : SpellsFields next (Value.insertField k v done) fs rest) :
      SpellsFields key done fs (cs ++ (ws ++ ',' :: (ds ++ (us ++ ':' :: rest))))

end

theorem Spells.blanks {v : Value} {ws cs : List Char} (hws : Blank ws) (h : Spells v cs) :
    Spells v (ws ++ cs) := by
  induction ws with
  | nil => exact h
  | cons c ws ih => exact .blank hws.head (ih hws.tail)

theorem SpellsItems.blanks {close : Char} {vs : List Value} {ws cs : List Char} (hws : Blank ws)
    (h : SpellsItems close vs cs) : SpellsItems close vs (ws ++ cs) := by
  cases h with
  | close hvs =>
    rw [← List.append_assoc]
    exact .close (hws.append hvs)
  | last h hvs =>
    rw [← List.append_assoc]
    exact .last (h.blanks hws) hvs
  | more h hvs hrest =>
    rw [← List.append_assoc]
    exact .more (h.blanks hws) hvs hrest

/-! ## The first character -/

/-- A character that a literal without others begins with. -/
def startsLexeme (c : Char) : Bool :=
  isQuote c || startsNumber c || c == '-' || c == '+' || Text.isLetter c || c == '_'

theorem startsLexeme_mark : ∀ c ∈ marks, startsLexeme c = true → isQuote c = true :=
  Text.forall_of_all (by decide +kernel)

/-- A character that becomes a small letter becomes it from a letter. -/
theorem isLetter_of_toLower {c : Char} (h : 'a' ≤ c.toLower ∧ c.toLower ≤ 'z') :
    Text.isLetter c = true := by
  unfold Char.toLower at h
  split at h
  · next hupper =>
    have hc : 'A' ≤ c ∧ c ≤ 'Z' := hupper
    simp [Text.isLetter, hc]
  · simp [Text.isLetter, h]

theorem Marked.head {v : Value} {cs : List Char} (h : Marked v cs) :
    ∃ c rest, cs = c :: rest ∧ Text.isLetter c = true := by
  cases h with
  | @mk mark s body q hchars hmark hq hbody =>
    cases mark with
    | nil => simp [stringMarks] at hmark
    | cons c mark =>
      refine ⟨c, mark ++ q :: body, rfl, isLetter_of_toLower ?_⟩
      have first : c.toLower = 'r' ∨ c.toLower = 'u' ∨ c.toLower = 'b' := by
        simp only [stringMarks, List.map_cons, List.contains_eq_mem, List.mem_cons,
          List.not_mem_nil, or_false, decide_eq_true_eq, List.cons.injEq] at hmark
        rcases hmark with h | h | h | h | h
        · exact .inl h.1
        · exact .inr (.inl h.1)
        · exact .inr (.inr h.1)
        · exact .inr (.inr h.1)
        · exact .inl h.1
      rcases first with he | he | he <;> rw [he] <;> decide

theorem Constant.head {v : Value} {c : Char} {cs rest : List Char} (h : Constant v cs)
    (heq : cs = c :: rest) : Text.isLetter c = true := by
  cases h <;> cases heq <;> decide +kernel

theorem Lexeme.head {v : Value} {cs : List Char} (h : Lexeme v cs) :
    ∃ c rest, cs = c :: rest ∧ startsLexeme c = true := by
  cases h with
  | strings h =>
    obtain ⟨q, body, hq, rfl⟩ := h.head
    exact ⟨q, body, rfl, by simp [startsLexeme, hq]⟩
  | number hc h => exact ⟨_, _, rfl, by simp [startsLexeme, hc]⟩
  | signed hsign hws hc h =>
    refine ⟨_, _, rfl, ?_⟩
    rcases hsign with rfl | rfl <;> rfl
  | constant h => cases h <;> exact ⟨_, _, rfl, by decide +kernel⟩
  | marked h =>
    obtain ⟨c, rest, rfl, hc⟩ := h.head
    exact ⟨c, rest, rfl, by simp [startsLexeme, hc]⟩

/-- A character that no literal begins with: a blank or a delimiter. -/
def cannotStart (c : Char) : Bool := isBlank c || isDelimiter c

theorem cannotStart_of_startsLexeme {c : Char} (h : startsLexeme c = true) :
    cannotStart c = false := by
  rw [← Bool.not_eq_true]
  intro hstart
  have hc : isBlank c = true ∨ isDelimiter c = true := by simpa [cannotStart] using hstart
  have hmark : c ∈ marks := by
    rcases hc with hb | hd
    · exact mem_marks_of_isBlank hb
    · exact mem_marks_of_isDelimiter hd
  have hq := startsLexeme_mark c hmark h
  rcases hc with hb | hd
  · rw [isBlank_of_isQuote hq] at hb
    cases hb
  · rcases isDelimiter_cases hd with rfl | rfl | rfl | rfl | rfl <;> cases hq

/-- Behind blanks, a literal begins with a character that is no delimiter. -/
theorem Spells.head : ∀ {v : Value} {cs : List Char}, Spells v cs →
    ∃ c rest, trimLeft cs = c :: rest ∧ isDelimiter c = false
  | _, _, .blank hb h => by
    obtain ⟨c, rest, heq, hc⟩ := h.head
    exact ⟨c, rest, (Text.trimLeft_cons_blank hb _).trans heq, hc⟩
  | _, _, .lexeme h => by
    obtain ⟨c, rest, rfl, hc⟩ := h.head
    have hstart := cannotStart_of_startsLexeme hc
    rw [cannotStart, Bool.or_eq_false_iff] at hstart
    exact ⟨c, rest, Text.trimLeft_cons_ink hstart.1 rest, hstart.2⟩
  | _, _, .list _ => ⟨'[', _, Text.trimLeft_cons_ink rfl _, rfl⟩
  | _, _, .unit _ => ⟨'(', _, Text.trimLeft_cons_ink rfl _, rfl⟩
  | _, _, .group _ _ => ⟨'(', _, Text.trimLeft_cons_ink rfl _, rfl⟩
  | _, _, .tuple _ _ _ => ⟨'(', _, Text.trimLeft_cons_ink rfl _, rfl⟩
  | _, _, .empty _ => ⟨'{', _, Text.trimLeft_cons_ink rfl _, rfl⟩
  | _, _, .single _ _ => ⟨'{', _, Text.trimLeft_cons_ink rfl _, rfl⟩
  | _, _, .set _ _ _ => ⟨'{', _, Text.trimLeft_cons_ink rfl _, rfl⟩
  | _, _, .dict _ _ _ => ⟨'{', _, Text.trimLeft_cons_ink rfl _, rfl⟩

/-- The same in front of any text. -/
theorem Spells.head_append {v : Value} {cs : List Char} (h : Spells v cs) (more : List Char) :
    ∃ c rest, trimLeft (cs ++ more) = c :: rest ∧ isDelimiter c = false := by
  obtain ⟨c, rest, heq, hc⟩ := h.head
  obtain ⟨ws, hws, hcs⟩ := Text.exists_blank_append cs
  refine ⟨c, rest ++ more, ?_, hc⟩
  rw [hcs, heq, List.append_assoc, Text.trimLeft_append hws, List.cons_append,
    Text.trimLeft_cons_ink (Text.isBlank_of_trimLeft heq)]

/-! ## The last character -/

theorem Strings.ends {s cs : List Char} (h : Strings s cs) : EndsInInk cs := by
  induction h with
  | @one q s body hq hbody =>
    obtain ⟨inner, rfl⟩ := hbody.ends
    exact ⟨q :: inner, q, rfl, isBlank_of_isQuote hq⟩
  | @more q s body ws t rest hq hbody hws hrest ih => exact ((ih.append ws).append body).cons q

theorem ends_of_plain {cs : List Char} (hne : cs ≠ []) (h : Plain cs) : EndsInInk cs := by
  refine ⟨cs.dropLast, cs.getLast hne, (List.dropLast_concat_getLast hne).symm, ?_⟩
  exact isBlank_of_not_mem_marks (h _ (List.getLast_mem hne))

theorem Lexeme.ends {v : Value} {cs : List Char} (h : Lexeme v cs) : EndsInInk cs := by
  cases h with
  | strings h => exact h.ends
  | number hc h => exact ends_of_plain h.facts.1 h.facts.2.1
  | @signed v sign c ws cs hsign hws hc h =>
    exact ((ends_of_plain h.facts.1 h.facts.2.1).append ws).cons sign
  | constant h => exact ends_of_plain h.plain.1 h.plain.2
  | marked h =>
    cases h with
    | @mk mark s body q hchars hmark hq hbody =>
      obtain ⟨inner, rfl⟩ := hbody.ends
      exact EndsInInk.append ⟨q :: inner, q, rfl, isBlank_of_isQuote hq⟩ mark

mutual

/-- A literal ends with a character that is no blank. -/
theorem Spells.ends : ∀ {v : Value} {cs : List Char}, Spells v cs → EndsInInk cs
  | _, _, .blank _ h => h.ends.cons _
  | _, _, .lexeme h => h.ends
  | _, _, .list h => (h.ends rfl).cons _
  | _, _, .unit _ => ((Text.endsInInk_singleton rfl).append _).cons _
  | _, _, .group _ _ => (((Text.endsInInk_singleton rfl).append _).append _).cons _
  | _, _, .tuple _ _ hrest => ((((hrest.ends rfl).cons _).append _).append _).cons _
  | _, _, .empty _ => ((Text.endsInInk_singleton rfl).append _).cons _
  | _, _, .single _ _ => (((Text.endsInInk_singleton rfl).append _).append _).cons _
  | _, _, .set _ _ hrest => ((((hrest.ends rfl).cons _).append _).append _).cons _
  | _, _, .dict _ _ hrest => (((hrest.ends.cons _).append _).append _).cons _

theorem SpellsItems.ends : ∀ {close : Char} {vs : List Value} {cs : List Char},
    SpellsItems close vs cs → isBlank close = false → EndsInInk cs
  | _, _, _, .close _, hc => (Text.endsInInk_singleton hc).append _
  | _, _, _, .last _ _, hc => ((Text.endsInInk_singleton hc).append _).append _
  | _, _, _, .more _ _ hrest, hc => (((hrest.ends hc).cons _).append _).append _

theorem SpellsFields.ends : ∀ {key : Value} {done fs : List (String × Value)} {cs : List Char},
    SpellsFields key done fs cs → EndsInInk cs
  | _, _, _, _, .last _ _ _ => ((Text.endsInInk_singleton rfl).append _).append _
  | _, _, _, _, .comma _ _ _ _ => ((((Text.endsInInk_singleton rfl).append _).cons _).append _).append _
  | _, _, _, _, .more _ _ _ _ _ hrest =>
    (((((hrest.ends.cons _).append _).append _).cons _).append _).append _

end

end Literal

end PageScript
