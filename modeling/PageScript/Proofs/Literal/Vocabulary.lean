import Mathlib.Data.List.Chain
import PageScript.Proofs.Literal.Decimal
import PageScript.Proofs.Literal.Nesting

/-!
# The vocabulary of literals

What remains of a literal when its strings are cut out (`cut`) is made of a few parts: commas and
colons, brackets, numbers with their signs, the three constants, and the marks of strings, with
blanks between them (`Consists`).  A number or a constant goes as far as a blank, a comma, a colon
or a closing bracket.

The brackets among the parts are matched (`Nested`), and no value stands beside another one unless
both are strings without a mark (`Beside`).  So there are no calls, no subscripts and no operators
in a literal, and nothing in it is a name (`parse_vocabulary`).
-/

namespace PageScript

namespace Literal

open Reading (isDigit)
open Text (Blank isBlank blank_nil)

/-! ## Cutting out strings -/

/-- What remains of a text without its strings: a character, or the place of a string. -/
inductive Piece where
  | char (c : Char)
  | string
deriving DecidableEq

/-- Cuts the strings out of a text.  A string goes from a quote to the next same quote, and a
backslash skips the character behind it.  Nothing remains of a text that ends inside a string. -/
def cut : Place → List Char → Option (List Piece)
  | .outside, [] => some []
  | .inside _, [] => none
  | .escaped _, [] => none
  | .outside, c :: cs =>
    if isQuote c then cut (.inside c) cs else (cut .outside cs).map (.char c :: ·)
  | .inside q, c :: cs =>
    if c = q then (cut .outside cs).map (.string :: ·)
    else if c = '\\' then cut (.escaped q) cs
    else cut (.inside q) cs
  | .escaped q, _ :: cs => cut (.inside q) cs

/-- Characters that are no part of a string. -/
def chars (cs : List Char) : List Piece := cs.map .char

/-- What remains of the text, whatever follows it. -/
def Cuts (cs : List Char) (ps : List Piece) : Prop :=
  ∀ more, cut .outside (cs ++ more) = (cut .outside more).map (ps ++ ·)

theorem cuts_nil : Cuts [] [] := fun more => by
  cases h : cut .outside more <;> simp [h]

theorem Cuts.append {cs ds : List Char} {ps qs : List Piece} (hc : Cuts cs ps) (hd : Cuts ds qs) :
    Cuts (cs ++ ds) (ps ++ qs) := by
  intro more
  rw [List.append_assoc, hc, hd, Option.map_map]
  refine congrArg (Option.map · _) (funext fun rs => ?_)
  exact (List.append_assoc ps qs rs).symm

theorem Cuts.cons {c : Char} (hc : isQuote c = false) {cs : List Char} {ps : List Piece}
    (h : Cuts cs ps) : Cuts (c :: cs) (.char c :: ps) := by
  intro more
  rw [List.cons_append, cut, if_neg (by simp [hc]), h, Option.map_map]
  rfl

theorem cuts_chars {cs : List Char} (h : ∀ c ∈ cs, isQuote c = false) : Cuts cs (chars cs) := by
  induction cs with
  | nil => exact cuts_nil
  | cons c cs ih =>
    exact .cons (h c List.mem_cons_self) (ih fun d hd => h d (List.mem_cons_of_mem c hd))

/-- Inside a string nothing remains. -/
theorem cut_inside {place next : Place} {c : Char} (hplace : place ≠ .outside)
    (hnext : next ≠ .outside) (h : Nest.step ⟨place, []⟩ c = some ⟨next, []⟩) (cs : List Char) :
    cut place (c :: cs) = cut next cs := by
  cases place with
  | outside => exact absurd rfl hplace
  | escaped q =>
    cases h
    rw [cut]
  | inside q =>
    rw [Nest.step] at h
    rw [cut]
    split at h
    · cases h
      exact absurd rfl hnext
    · split at h <;> cases h
      · next hq hb => rw [if_neg hq, if_pos hb]
      · next hq hb => rw [if_neg hq, if_neg hb]

theorem Mode.place_ne_outside {quote : Char} : ∀ {mode : Mode}, mode.place quote ≠ .outside
  | .plain | .escape | .hex _ _ => nofun

/-- A string is cut out as it is read. -/
theorem cut_string {raw : Bool} {quote : Char} (hq : isQuote quote = true) (more : List Char) :
    ∀ (cs : List Char) (mode : Mode) (done : List Char) {s : List Char},
      string raw quote mode done cs = .ok (s, []) →
      cut (mode.place quote) (cs ++ more) = (cut .outside more).map (.string :: ·)
  | [], mode, done, s, h => by
    cases mode <;> cases h
  | c :: cs, mode, done, s, h => by
    rcases string_step h with ⟨rfl, rfl, heq⟩ | ⟨next, after, hpass, hstep⟩
    · cases heq
      rw [List.cons_append, Mode.place, cut, if_pos rfl]
      rfl
    · rw [hstep] at h
      rw [List.cons_append, cut_inside Mode.place_ne_outside Mode.place_ne_outside (hpass.step hq [])]
      exact cut_string hq more cs next after h

theorem Quoted.cuts {raw : Bool} {q : Char} {s body : List Char} (h : Quoted raw q s body)
    (hq : isQuote q = true) : Cuts (q :: body) [.string] := by
  intro more
  rw [List.cons_append, cut, if_pos hq]
  exact cut_string hq more body .plain [] h

/-! ## Parts -/

/-- A part of a literal. -/
inductive Part where
  /-- A comma or a colon. -/
  | separator
  | opening (c : Char)
  | closing (c : Char)
  /-- A number or a constant. -/
  | word
  | string (marked : Bool)
deriving DecidableEq

namespace Part

/-- The part is the end of a value. -/
def endsValue : Part → Bool
  | .separator | .opening _ => false
  | .closing _ | .word | .string _ => true

/-- The part is the beginning of a value. -/
def startsValue : Part → Bool
  | .separator | .closing _ => false
  | .opening _ | .word | .string _ => true

end Part

/-- The two parts may stand side by side: they are not two values, unless both are strings without a
mark. -/
def Beside (a b : Part) : Prop :=
  a.endsValue = true → b.startsValue = true → a = .string false ∧ b = .string false

/-- The brackets are matched. -/
inductive Nested : List Part → Prop
  | nil : Nested []
  | separator {ts : List Part} (h : Nested ts) : Nested (.separator :: ts)
  | word {ts : List Part} (h : Nested ts) : Nested (.word :: ts)
  | string (marked : Bool) {ts : List Part} (h : Nested ts) : Nested (.string marked :: ts)
  | enclosed {o c : Char} {inner ts : List Part}
      (hpair : (o, c) ∈ [('[', ']'), ('(', ')'), ('{', '}')]) (hinner : Nested inner)
      (h : Nested ts) : Nested (.opening o :: (inner ++ .closing c :: ts))

/-- The text ends, or goes on with a blank, a comma, a colon or a closing bracket. -/
def Ends (ps : List Piece) : Prop :=
  ∀ p rest, ps = p :: rest → ∃ c, p = .char c ∧ (isBlank c = true ∨ isDelimiter c = true)

/-- What remains of a text is these parts, and blanks. -/
inductive Consists : List Piece → List Part → Prop
  | nil : Consists [] []
  | blank {c : Char} {ps : List Piece} {ts : List Part} (hc : isBlank c = true)
      (h : Consists ps ts) : Consists (.char c :: ps) ts
  | separator {c : Char} {ps : List Piece} {ts : List Part} (hc : c = ',' ∨ c = ':')
      (h : Consists ps ts) : Consists (.char c :: ps) (.separator :: ts)
  | opening {c : Char} {ps : List Piece} {ts : List Part} (hc : c = '[' ∨ c = '(' ∨ c = '{')
      (h : Consists ps ts) : Consists (.char c :: ps) (.opening c :: ts)
  | closing {c : Char} {ps : List Piece} {ts : List Part} (hc : c = ']' ∨ c = ')' ∨ c = '}')
      (h : Consists ps ts) : Consists (.char c :: ps) (.closing c :: ts)
  | number {c : Char} {cs : List Char} {ps : List Piece} {ts : List Part}
      (hc : isDigit c = true ∨ c = '.') (hnumber : NumberText (c :: cs)) (hends : Ends ps)
      (h : Consists ps ts) : Consists (chars (c :: cs) ++ ps) (.word :: ts)
  | signed {sign c : Char} {ws cs : List Char} {ps : List Piece} {ts : List Part}
      (hsign : sign = '-' ∨ sign = '+') (hws : Blank ws) (hc : isDigit c = true ∨ c = '.')
      (hnumber : NumberText (c :: cs)) (hends : Ends ps) (h : Consists ps ts) :
      Consists (.char sign :: (chars (ws ++ c :: cs) ++ ps)) (.word :: ts)
  | constant {cs : List Char} {ps : List Piece} {ts : List Part}
      (hcs : cs ∈ ["True".toList, "False".toList, "None".toList]) (hends : Ends ps)
      (h : Consists ps ts) : Consists (chars cs ++ ps) (.word :: ts)
  | string {ps : List Piece} {ts : List Part} (h : Consists ps ts) :
      Consists (.string :: ps) (.string false :: ts)
  | marked {mark : List Char} {ps : List Piece} {ts : List Part}
      (hmark : mark.map Char.toLower ∈ [['r'], ['u'], ['b'], ['b', 'r'], ['r', 'b']])
      (h : Consists ps ts) : Consists (chars mark ++ .string :: ps) (.string true :: ts)

theorem Nested.append {ts us : List Part} (ht : Nested ts) (hu : Nested us) : Nested (ts ++ us) := by
  induction ht with
  | nil => exact hu
  | separator _ ih => exact .separator ih
  | word _ ih => exact .word ih
  | string marked _ ih => exact .string marked ih
  | enclosed hpair hinner _ _ ih =>
    rw [List.cons_append, List.append_assoc]
    exact .enclosed hpair hinner ih

/-! ## Phrases -/

/-- The text consists of the parts, in front of anything that ends it; its brackets are matched, and
no value stands beside another one. -/
structure Phrase (cs : List Char) (ps : List Piece) (ts : List Part) : Prop where
  cuts : Cuts cs ps
  leads : ∀ {qs : List Piece} {us : List Part}, Ends qs → Consists qs us →
    Consists (ps ++ qs) (ts ++ us)
  nested : Nested ts
  chain : ts.IsChain Beside

theorem ends_nil : Ends [] := fun _ _ h => nomatch h

theorem ends_cons {c : Char} (hc : isBlank c = true ∨ isDelimiter c = true) (ps : List Piece) :
    Ends (.char c :: ps) := by
  intro p rest heq
  cases heq
  exact ⟨c, rfl, hc⟩

theorem Ends.blank {ws : List Char} (hws : Blank ws) {ps : List Piece} (h : Ends ps) :
    Ends (chars ws ++ ps) := by
  cases ws with
  | nil => exact h
  | cons b ws => exact ends_cons (.inl hws.head) _

theorem Consists.blanks {ws : List Char} (hws : Blank ws) {ps : List Piece} {ts : List Part}
    (h : Consists ps ts) : Consists (chars ws ++ ps) ts := by
  induction ws with
  | nil => exact h
  | cons b ws ih => exact .blank hws.head (ih hws.tail)

theorem cuts_blank {ws : List Char} (hws : Blank ws) : Cuts ws (chars ws) :=
  cuts_chars fun c hc => (neutral_of_isBlank (hws c hc)).1

theorem phrase_blank {ws : List Char} (hws : Blank ws) : Phrase ws (chars ws) [] where
  cuts := cuts_blank hws
  leads _ h := h.blanks hws
  nested := .nil
  chain := .nil

namespace Phrase

variable {cs ds ws : List Char} {ps qs : List Piece} {ts us : List Part}

theorem blank {b : Char} (hb : isBlank b = true) (h : Phrase cs ps ts) :
    Phrase (b :: cs) (.char b :: ps) ts where
  cuts := h.cuts.cons (neutral_of_isBlank hb).1
  leads hends hqs := .blank hb (h.leads hends hqs)
  nested := h.nested
  chain := h.chain

theorem append_blank (h : Phrase cs ps ts) (hws : Blank ws) :
    Phrase (cs ++ ws) (ps ++ chars ws) ts where
  cuts := h.cuts.append (cuts_blank hws)
  leads hends hqs := by
    rw [List.append_assoc]
    exact h.leads (hends.blank hws) (hqs.blanks hws)
  nested := h.nested
  chain := h.chain

/-- Two values with a comma or a colon between them. -/
theorem separated (h : Phrase cs ps ts) (hws : Blank ws) {c : Char} (hc : c = ',' ∨ c = ':')
    (h' : Phrase ds qs us) :
    Phrase (cs ++ (ws ++ c :: ds)) (ps ++ (chars ws ++ .char c :: qs)) (ts ++ .separator :: us) where
  cuts := h.cuts.append ((cuts_blank hws).append (h'.cuts.cons (by rcases hc with rfl | rfl <;> rfl)))
  leads {rs vs} hends hrs := by
    have delimiter : isDelimiter c = true := by rcases hc with rfl | rfl <;> rfl
    have behind : Consists (.char c :: (qs ++ rs)) (.separator :: (us ++ vs)) :=
      .separator hc (h'.leads hends hrs)
    have led := h.leads ((ends_cons (.inr delimiter) (qs ++ rs)).blank hws) (behind.blanks hws)
    simpa using led
  nested := h.nested.append (.separator h'.nested)
  chain := by
    refine List.isChain_append.mpr ⟨h.chain, List.isChain_cons.mpr ⟨?_, h'.chain⟩, ?_⟩
    · intro t _ hends
      cases hends
    · intro t _ u hu _ hstarts
      cases hu
      cases hstarts

/-- A text in brackets is a value. -/
theorem enclosed {o c : Char} (hpair : (o, c) ∈ [('[', ']'), ('(', ')'), ('{', '}')])
    (h : Phrase cs ps ts) :
    Phrase (o :: (cs ++ [c])) (.char o :: (ps ++ [.char c])) (.opening o :: (ts ++ [.closing c])) := by
  have brackets : (o = '[' ∧ c = ']') ∨ (o = '(' ∧ c = ')') ∨ (o = '{' ∧ c = '}') := by
    simpa using hpair
  have hopening : o = '[' ∨ o = '(' ∨ o = '{' := by
    rcases brackets with h | h | h
    · exact .inl h.1
    · exact .inr (.inl h.1)
    · exact .inr (.inr h.1)
  have hclosing : c = ']' ∨ c = ')' ∨ c = '}' := by
    rcases brackets with h | h | h
    · exact .inl h.2
    · exact .inr (.inl h.2)
    · exact .inr (.inr h.2)
  constructor
  · have close : Cuts [c] [.char c] :=
      cuts_nil.cons (by rcases hclosing with rfl | rfl | rfl <;> rfl)
    exact (h.cuts.append close).cons (by rcases hopening with rfl | rfl | rfl <;> rfl)
  · intro qs us _ hqs
    have delimiter : isDelimiter c = true := by rcases hclosing with rfl | rfl | rfl <;> rfl
    have led := h.leads (ends_cons (.inr delimiter) qs) (.closing hclosing hqs)
    have whole := Consists.opening hopening led
    simpa using whole
  · exact .enclosed hpair h.nested .nil
  · refine List.isChain_cons.mpr ⟨?_, List.isChain_append.mpr ⟨h.chain, by simp, ?_⟩⟩
    · intro t _ hends
      cases hends
    · intro t _ u hu _ hstarts
      cases hu
      cases hstarts

end Phrase

/-! ## Lexemes -/

theorem cuts_plain {cs : List Char} (h : Plain cs) : Cuts cs (chars cs) :=
  cuts_chars fun c hc => (neutral_of_not_mem_marks (h c hc)).1

theorem phrase_word {cs : List Char} {ps : List Piece} (hcuts : Cuts cs ps)
    (hleads : ∀ {qs us}, Ends qs → Consists qs us → Consists (ps ++ qs) (.word :: us)) :
    Phrase cs ps [.word] :=
  ⟨hcuts, hleads, .word .nil, List.isChain_singleton _⟩

/-- Adjacent strings are as many parts, at least one. -/
theorem Strings.phrase {s cs : List Char} (h : Strings s cs) :
    ∃ ps n, Phrase cs ps (List.replicate (n + 1) (.string false)) := by
  have chain (n : Nat) : (List.replicate n (Part.string false)).IsChain Beside :=
    List.isChain_replicate_of_rel n fun _ _ => ⟨rfl, rfl⟩
  induction h with
  | one hq hbody =>
    exact ⟨[.string], 0, hbody.cuts hq, fun _ hqs => .string hqs, .string false .nil, chain 1⟩
  | @more q s body ws t rest hq hbody hws hrest ih =>
    obtain ⟨ps, n, hcuts, hleads, hnested, -⟩ := ih
    refine ⟨.string :: (chars ws ++ ps), n + 1, ?_, ?_, .string false hnested, chain (n + 2)⟩
    · exact (hbody.cuts hq).append ((cuts_blank hws).append hcuts)
    · intro qs us hends hqs
      have led := Consists.string ((hleads hends hqs).blanks hws)
      rw [← List.append_assoc] at led
      exact led

theorem Marked.phrase {v : Value} {cs : List Char} (h : Marked v cs) :
    ∃ ps, Phrase cs ps [.string true] := by
  cases h with
  | @mk mark s body q hchars hmark hq hbody =>
    have quoteless : ∀ c ∈ mark, isQuote c = false := by
      intro c hc
      cases hquote : isQuote c with
      | false => rfl
      | true =>
        have named := hchars c hc
        rw [(mark_facts c (mem_marks_of_isQuote hquote)).1] at named
        cases named
    refine ⟨_, (cuts_chars quoteless).append (hbody.cuts hq), fun _ hqs => ?_, .string true .nil,
      List.isChain_singleton _⟩
    rw [List.append_assoc]
    exact .marked (by simpa [stringMarks] using hmark) hqs

/-- A literal without others is a part, or several parts that are strings. -/
theorem Lexeme.phrase {v : Value} {cs : List Char} (h : Lexeme v cs) : ∃ ps ts, Phrase cs ps ts := by
  have number {c : Char} (hc : startsNumber c = true) : isDigit c = true ∨ c = '.' := by
    simpa [startsNumber] using hc
  cases h with
  | strings h =>
    obtain ⟨ps, n, phrase⟩ := h.phrase
    exact ⟨ps, _, phrase⟩
  | number hc h =>
    exact ⟨_, _, phrase_word (cuts_plain h.facts.2.1) fun hends hqs =>
      .number (number hc) h.numberText hends hqs⟩
  | @signed v sign c ws cs hsign hws hc h =>
    have bare : isQuote sign = false := by rcases hsign with rfl | rfl <;> rfl
    have cuts : Cuts (sign :: (ws ++ c :: cs)) (.char sign :: chars (ws ++ c :: cs)) := by
      rw [chars, List.map_append]
      exact ((cuts_blank hws).append (cuts_plain h.facts.2.1)).cons bare
    exact ⟨_, _, phrase_word cuts fun hends hqs =>
      .signed hsign hws (number hc) h.numberText hends hqs⟩
  | constant h =>
    have listed : cs ∈ ["True".toList, "False".toList, "None".toList] := by
      cases h <;> simp
    exact ⟨_, _, phrase_word (cuts_plain h.plain.2) fun hends hqs => .constant listed hends hqs⟩
  | marked h =>
    obtain ⟨ps, phrase⟩ := h.phrase
    exact ⟨ps, _, phrase⟩

/-! ## Literals -/

mutual

/-- A literal consists of parts. -/
theorem Spells.phrase : ∀ {v : Value} {cs : List Char}, Spells v cs → ∃ ps ts, Phrase cs ps ts
  | _, _, .blank hb h => by
    obtain ⟨ps, ts, phrase⟩ := h.phrase
    exact ⟨_, _, phrase.blank hb⟩
  | _, _, .lexeme h => h.phrase
  | _, _, .list h => by
    obtain ⟨inner, rfl, ps, ts, phrase⟩ := h.phrase
    exact ⟨_, _, phrase.enclosed (by simp)⟩
  | _, _, .unit hws => ⟨_, _, (phrase_blank hws).enclosed (by simp)⟩
  | _, _, .group h hws => by
    obtain ⟨ps, ts, phrase⟩ := h.phrase
    rw [← List.append_assoc]
    exact ⟨_, _, (phrase.append_blank hws).enclosed (by simp)⟩
  | _, _, .tuple h hws hrest => by
    obtain ⟨ps, ts, phrase⟩ := h.phrase
    obtain ⟨inner, rfl, qs, us, phrase'⟩ := hrest.phrase
    have enclosed := (phrase.separated hws (.inl rfl) phrase').enclosed (o := '(') (c := ')') (by simp)
    exact ⟨_, _, by simpa using enclosed⟩
  | _, _, .empty hws => ⟨_, _, (phrase_blank hws).enclosed (by simp)⟩
  | _, _, .single h hws => by
    obtain ⟨ps, ts, phrase⟩ := h.phrase
    rw [← List.append_assoc]
    exact ⟨_, _, (phrase.append_blank hws).enclosed (by simp)⟩
  | _, _, .set h hws hrest => by
    obtain ⟨ps, ts, phrase⟩ := h.phrase
    obtain ⟨inner, rfl, qs, us, phrase'⟩ := hrest.phrase
    have enclosed := (phrase.separated hws (.inl rfl) phrase').enclosed (o := '{') (c := '}') (by simp)
    exact ⟨_, _, by simpa using enclosed⟩
  | _, _, .dict h hws hrest => by
    obtain ⟨ps, ts, phrase⟩ := h.phrase
    obtain ⟨inner, rfl, qs, us, phrase'⟩ := hrest.phrase
    have enclosed := (phrase.separated hws (.inr rfl) phrase').enclosed (o := '{') (c := '}') (by simp)
    exact ⟨_, _, by simpa using enclosed⟩

theorem SpellsItems.phrase : ∀ {close : Char} {vs : List Value} {cs : List Char},
    SpellsItems close vs cs → ∃ inner, cs = inner ++ [close] ∧ ∃ ps ts, Phrase inner ps ts
  | _, _, _, .close hws => ⟨_, rfl, _, _, phrase_blank hws⟩
  | _, _, _, .last h hws => by
    obtain ⟨ps, ts, phrase⟩ := h.phrase
    exact ⟨_, (List.append_assoc ..).symm, _, _, phrase.append_blank hws⟩
  | _, _, _, .more h hws hrest => by
    obtain ⟨ps, ts, phrase⟩ := h.phrase
    obtain ⟨inner, rfl, qs, us, phrase'⟩ := hrest.phrase
    exact ⟨_, by simp, _, _, phrase.separated hws (.inl rfl) phrase'⟩

theorem SpellsFields.phrase : ∀ {key : Value} {done fs : List (String × Value)} {cs : List Char},
    SpellsFields key done fs cs → ∃ inner, cs = inner ++ ['}'] ∧ ∃ ps ts, Phrase inner ps ts
  | _, _, _, _, .last _ h hws => by
    obtain ⟨ps, ts, phrase⟩ := h.phrase
    exact ⟨_, (List.append_assoc ..).symm, _, _, phrase.append_blank hws⟩
  | _, _, _, _, .comma _ h hws hvs => by
    obtain ⟨ps, ts, phrase⟩ := h.phrase
    exact ⟨_, by simp, _, _, phrase.separated hws (.inl rfl) (phrase_blank hvs)⟩
  | _, _, _, _, .more _ h hws hnext hus hrest => by
    obtain ⟨ps, ts, phrase⟩ := h.phrase
    obtain ⟨ps', ts', phrase'⟩ := hnext.phrase
    obtain ⟨inner, rfl, qs, us, phrase''⟩ := hrest.phrase
    have fields := phrase'.separated hus (.inr rfl) phrase''
    exact ⟨_, by simp, _, _, phrase.separated hws (.inl rfl) fields⟩

end

theorem SpellsTop.phrase {vs : List Value} {cs : List Char} (h : SpellsTop vs cs) :
    ∃ ps ts, Phrase cs ps ts := by
  induction h with
  | nil hws => exact ⟨_, _, phrase_blank hws⟩
  | last h hws =>
    obtain ⟨ps, ts, phrase⟩ := h.phrase
    exact ⟨_, _, phrase.append_blank hws⟩
  | more h hws _ ih =>
    obtain ⟨ps, ts, phrase⟩ := h.phrase
    obtain ⟨qs, us, phrase'⟩ := ih
    exact ⟨_, _, phrase.separated hws (.inl rfl) phrase'⟩

theorem SpellsWhole.phrase {v : Value} {cs : List Char} (h : SpellsWhole v cs) :
    ∃ ps ts, Phrase cs ps ts := by
  cases h with
  | single h hws =>
    obtain ⟨ps, ts, phrase⟩ := h.phrase
    exact ⟨_, _, phrase.append_blank hws⟩
  | tuple h hws hrest =>
    obtain ⟨ps, ts, phrase⟩ := h.phrase
    obtain ⟨qs, us, phrase'⟩ := hrest.phrase
    exact ⟨_, _, phrase.separated hws (.inl rfl) phrase'⟩

/-- Nothing but literals is read.  What remains of a text that is read, when its strings are cut out,
consists of parts of literals with blanks between them.  Its brackets are matched, and no value
stands beside another one, but for strings without marks. -/
theorem parse_vocabulary {source : String} {v : Value} (h : parse source = .ok v) :
    ∃ remains parts, cut .outside source.toList = some remains ∧ Consists remains parts ∧
      Nested parts ∧ parts.IsChain Beside := by
  obtain ⟨ps, ts, phrase⟩ := (parse_eq_ok_iff.mp h).phrase
  have cuts := phrase.cuts []
  have consists := phrase.leads ends_nil .nil
  rw [List.append_nil] at cuts
  rw [List.append_nil, List.append_nil] at consists
  exact ⟨ps, ts, by simpa [cut] using cuts, consists, phrase.nested, phrase.chain⟩

/-- A list with a text that looks like a call, a signed number and a tuple with one item. -/
theorem parse_vocabulary_list :
    let source := "['f(x)', -0x1F, (None,)]"
    let remains : List Piece := .char '[' :: .string :: chars ", -0x1F, (None,)]".toList
    (∃ v, parse source = .ok v) ∧ cut .outside source.toList = some remains ∧
      ∃ parts, Consists remains parts ∧ Nested parts ∧ parts.IsChain Beside := by
  intro source remains
  have cuts : cut .outside source.toList = some remains := by decide +kernel
  have accepted : (parse source).isOk = true := by decide +kernel
  cases hread : parse source with
  | error e =>
    rw [hread] at accepted
    cases accepted
  | ok v =>
    obtain ⟨remains', parts, cuts', consists, nested, chain⟩ := parse_vocabulary hread
    obtain rfl : remains' = remains := Option.some.inj (cuts'.symm.trans cuts)
    exact ⟨⟨v, rfl⟩, cuts, parts, consists, nested, chain⟩

end Literal

end PageScript
