import PageScript.Proofs.Literal.Whole

/-!
# Nesting

A literal closes what it opens.  `Nest` is a machine that follows a text as a reader of literals
does: it knows whether it is inside a string, whether the last character of the string was a
backslash, and which closing marks are still due.  It refuses a closing mark that is not due.

Every literal is `Level`: whatever is due in front of it is due behind it.  So no whole text for a
value goes on, behind a whole text for a value, with a closing mark (`SpellsWhole.not_closed`).
-/

namespace PageScript

namespace Literal

open Text (Blank isBlank)

/-! ## The machine -/

/-- Where in a literal a character stands. -/
inductive Place where
  | outside
  | inside (quote : Char)
  | escaped (quote : Char)
deriving DecidableEq

/-- The place in a text, and the closing marks that are due, the next one first. -/
structure Nest where
  place : Place
  due : List Char
deriving DecidableEq

namespace Nest

/-- Outside strings and containers. -/
def start : Nest := ⟨.outside, []⟩

/-- The place behind one character outside strings. -/
def mark (due : List Char) (c : Char) : Option Nest :=
  if isQuote c then some ⟨.inside c, due⟩
  else if c = '(' then some ⟨.outside, ')' :: due⟩
  else if c = '[' then some ⟨.outside, ']' :: due⟩
  else if c = '{' then some ⟨.outside, '}' :: due⟩
  else if closes c then
    match due with
    | d :: due => if c = d then some ⟨.outside, due⟩ else none
    | [] => none
  else some ⟨.outside, due⟩

/-- The place behind one character. -/
def step : Nest → Char → Option Nest
  | ⟨.outside, due⟩, c => mark due c
  | ⟨.inside q, due⟩, c =>
    if c = q then some ⟨.outside, due⟩
    else if c = '\\' then some ⟨.escaped q, due⟩
    else some ⟨.inside q, due⟩
  | ⟨.escaped q, due⟩, _ => some ⟨.inside q, due⟩

theorem step_close (q : Char) (due : List Char) :
    step ⟨.inside q, due⟩ q = some ⟨.outside, due⟩ := if_pos rfl

theorem step_backslash {q : Char} (h : '\\' ≠ q) (due : List Char) :
    step ⟨.inside q, due⟩ '\\' = some ⟨.escaped q, due⟩ := by
  rw [step, if_neg h, if_pos rfl]

theorem step_inside {q c : Char} (hq : c ≠ q) (hb : c ≠ '\\') (due : List Char) :
    step ⟨.inside q, due⟩ c = some ⟨.inside q, due⟩ := by
  rw [step, if_neg hq, if_neg hb]

theorem step_escaped (q c : Char) (due : List Char) :
    step ⟨.escaped q, due⟩ c = some ⟨.inside q, due⟩ := rfl

/-- The place behind a text. -/
def through (n : Nest) (cs : List Char) : Option Nest := cs.foldlM step n

@[simp] theorem through_nil (n : Nest) : n.through [] = some n := rfl

theorem through_cons (n : Nest) (c : Char) (cs : List Char) :
    n.through (c :: cs) = (n.step c).bind fun m => m.through cs := rfl

theorem through_append (n : Nest) (cs ds : List Char) :
    n.through (cs ++ ds) = (n.through cs).bind fun m => m.through ds := List.foldlM_append

end Nest

/-! ## Level texts -/

/-- Outside strings, the text leaves due what is due. -/
def Level (cs : List Char) : Prop := ∀ due, Nest.through ⟨.outside, due⟩ cs = some ⟨.outside, due⟩

theorem level_nil : Level [] := fun _ => rfl

theorem Level.append {cs ds : List Char} (hc : Level cs) (hd : Level ds) : Level (cs ++ ds) := by
  intro due
  rw [Nest.through_append, hc due]
  exact hd due

/-- A character that opens and closes nothing. -/
def Neutral (c : Char) : Prop := isQuote c = false ∧ opens c = false ∧ closes c = false

theorem Nest.mark_neutral {c : Char} (h : Neutral c) (due : List Char) :
    mark due c = some ⟨.outside, due⟩ := by
  obtain ⟨hq, ho, hc⟩ := h
  simp only [opens, Bool.or_eq_false_iff, beq_eq_false_iff_ne] at ho
  unfold mark
  rw [if_neg (by simp [hq]), if_neg ho.1.2, if_neg ho.1.1, if_neg ho.2, if_neg (by simp [hc])]

theorem level_of_neutral {cs : List Char} (h : ∀ c ∈ cs, Neutral c) : Level cs := by
  induction cs with
  | nil => exact level_nil
  | cons c cs ih =>
    intro due
    have hc : Nest.step ⟨.outside, due⟩ c = some ⟨.outside, due⟩ :=
      Nest.mark_neutral (h c List.mem_cons_self) due
    rw [Nest.through_cons, hc]
    exact ih (fun d hd => h d (List.mem_cons_of_mem c hd)) due

theorem Level.neutral {c : Char} (hc : Neutral c) {cs : List Char} (h : Level cs) :
    Level (c :: cs) := by
  have one : Level [c] := level_of_neutral fun d hd => by
    rw [List.mem_singleton.mp hd]
    exact hc
  exact one.append h

theorem neutral_of_isBlank {c : Char} (h : isBlank c = true) : Neutral c := by
  have table : ∀ d ∈ Text.blanks, isQuote d = false ∧ opens d = false ∧ closes d = false :=
    Text.forall_of_all (by decide +kernel)
  exact table c (Text.mem_blanks h)

theorem level_of_blank {ws : List Char} (h : Blank ws) : Level ws :=
  level_of_neutral fun c hc => neutral_of_isBlank (h c hc)

theorem neutral_of_not_mem_marks {c : Char} (h : c ∉ marks) : Neutral c := by
  refine ⟨?_, ?_, ?_⟩
  · rw [← Bool.not_eq_true]
    exact fun hq => h (mem_marks_of_isQuote hq)
  · rw [← Bool.not_eq_true]
    intro ho
    have cases : (c = '[' ∨ c = '(') ∨ c = '{' := by simpa [opens] using ho
    rcases cases with (rfl | rfl) | rfl <;> exact h (by decide +kernel)
  · rw [← Bool.not_eq_true]
    exact fun hc => h (mem_marks_of_isDelimiter (closes_facts hc).1)

theorem level_of_plain {cs : List Char} (h : Plain cs) : Level cs :=
  level_of_neutral fun c hc => neutral_of_not_mem_marks (h c hc)

/-- A level text between an opening mark and its closing mark is level. -/
theorem Level.enclosed {cs : List Char} (h : Level cs) {o c : Char}
    (ho : ∀ due, Nest.mark due o = some ⟨.outside, c :: due⟩)
    (hc : ∀ due, Nest.mark (c :: due) c = some ⟨.outside, due⟩) : Level (o :: (cs ++ [c])) := by
  intro due
  have first : Nest.step ⟨.outside, due⟩ o = some ⟨.outside, c :: due⟩ := ho due
  have last : Nest.step ⟨.outside, c :: due⟩ c = some ⟨.outside, due⟩ := hc due
  rw [Nest.through_cons, first, Option.bind_some, Nest.through_append, h, Option.bind_some,
    Nest.through_cons, last]
  rfl

theorem Level.list {cs : List Char} (h : Level cs) : Level ('[' :: (cs ++ [']'])) :=
  h.enclosed (fun _ => rfl) (fun _ => rfl)

theorem Level.parens {cs : List Char} (h : Level cs) : Level ('(' :: (cs ++ [')'])) :=
  h.enclosed (fun _ => rfl) (fun _ => rfl)

theorem Level.braces {cs : List Char} (h : Level cs) : Level ('{' :: (cs ++ ['}'])) :=
  h.enclosed (fun _ => rfl) (fun _ => rfl)

/-! ## Strings -/

/-- Where the reader of a string stands in the text. -/
def Mode.place (quote : Char) : Mode → Place
  | .plain => .inside quote
  | .escape => .escaped quote
  | .hex _ _ => .inside quote

theorem Mode.place_inside {quote : Char} : ∀ {mode : Mode}, mode ≠ .escape →
    mode.place quote = .inside quote
  | .plain, _ => rfl
  | .hex _ _, _ => rfl
  | .escape, h => absurd rfl h

/-- The machine goes along with the reader of a string. -/
theorem Mode.Passes.step {quote c : Char} {mode next : Mode} (h : mode.Passes quote c next)
    (hq : isQuote quote = true) (due : List Char) :
    Nest.step ⟨mode.place quote, due⟩ c = some ⟨next.place quote, due⟩ := by
  cases h with
  | plain hc hb => exact Nest.step_inside hc hb due
  | backslash hq => exact Nest.step_backslash hq due
  | escape h =>
    rw [Mode.place_inside h]
    exact Nest.step_escaped quote c due
  | digit hd h =>
    rw [Mode.place_inside h]
    -- a digit is neither the quote nor a backslash
    have hpart : isHexPart c = true := by simp [isHexPart, hd]
    refine Nest.step_inside ?_ ?_ due
    · rintro rfl
      rw [(mark_facts c (mem_marks_of_isQuote hq)).2.2.1] at hpart
      cases hpart
    · rintro rfl
      cases hpart

theorem through_string {raw : Bool} {quote : Char} (hq : isQuote quote = true) (due : List Char) :
    ∀ (cs : List Char) (mode : Mode) (done : List Char) {s : List Char},
      string raw quote mode done cs = .ok (s, []) →
      Nest.through ⟨mode.place quote, due⟩ cs = some ⟨.outside, due⟩
  | [], mode, done, s, h => by
    cases mode <;> cases h
  | c :: cs, mode, done, s, h => by
    rw [Nest.through_cons]
    rcases string_step h with ⟨rfl, rfl, heq⟩ | ⟨next, after, hpass, hstep⟩
    · cases heq
      rw [Mode.place, Nest.step_close]
      rfl
    · rw [hstep] at h
      rw [hpass.step hq]
      exact through_string hq due cs next after h

theorem Quoted.level {raw : Bool} {q : Char} {s body : List Char} (hq : isQuote q = true)
    (h : Quoted raw q s body) : Level (q :: body) := by
  intro due
  have open_ : Nest.step ⟨.outside, due⟩ q = some ⟨.inside q, due⟩ := if_pos hq
  rw [Nest.through_cons, open_]
  exact through_string hq due body .plain [] h

theorem Strings.level {s cs : List Char} (h : Strings s cs) : Level cs := by
  induction h with
  | one hq hbody => exact hbody.level hq
  | @more q s body ws t rest hq hbody hws hrest ih =>
    rw [← List.cons_append]
    exact (hbody.level hq).append ((level_of_blank hws).append ih)

/-! ## Literals -/

theorem Lexeme.level {v : Value} {cs : List Char} (h : Lexeme v cs) : Level cs := by
  cases h with
  | strings h => exact h.level
  | number hc h => exact level_of_plain h.facts.2.1
  | @signed v sign c ws cs hsign hws hc h =>
    have neutral : Neutral sign := by
      rcases hsign with rfl | rfl <;> exact ⟨rfl, rfl, rfl⟩
    exact .neutral neutral ((level_of_blank hws).append (level_of_plain h.facts.2.1))
  | constant h => exact level_of_plain h.plain.2
  | marked h =>
    cases h with
    | @mk mark s body q hchars hmark hq hbody =>
      refine Level.append (level_of_plain fun c hc hm => ?_) (hbody.level hq)
      have := hchars c hc
      rw [(mark_facts c hm).1] at this
      cases this

theorem neutral_comma : Neutral ',' := ⟨rfl, rfl, rfl⟩

theorem neutral_colon : Neutral ':' := ⟨rfl, rfl, rfl⟩

mutual

/-- A literal closes what it opens. -/
theorem Spells.level : ∀ {v : Value} {cs : List Char}, Spells v cs → Level cs
  | _, _, .blank hb h => .neutral (neutral_of_isBlank hb) h.level
  | _, _, .lexeme h => h.level
  | _, _, .list h => by
    obtain ⟨inner, rfl, hinner⟩ := h.level
    exact hinner.list
  | _, _, .unit hws => (level_of_blank hws).parens
  | _, _, .group h hws => by
    rw [← List.append_assoc]
    exact (h.level.append (level_of_blank hws)).parens
  | _, _, .tuple h hws hrest => by
    obtain ⟨inner, rfl, hinner⟩ := hrest.level
    have := (h.level.append ((level_of_blank hws).append (hinner.neutral neutral_comma))).parens
    simpa using this
  | _, _, .empty hws => (level_of_blank hws).braces
  | _, _, .single h hws => by
    rw [← List.append_assoc]
    exact (h.level.append (level_of_blank hws)).braces
  | _, _, .set h hws hrest => by
    obtain ⟨inner, rfl, hinner⟩ := hrest.level
    have := (h.level.append ((level_of_blank hws).append (hinner.neutral neutral_comma))).braces
    simpa using this
  | _, _, .dict h hws hrest => by
    obtain ⟨inner, rfl, hinner⟩ := hrest.level
    have := (h.level.append ((level_of_blank hws).append (hinner.neutral neutral_colon))).braces
    simpa using this

theorem SpellsItems.level : ∀ {close : Char} {vs : List Value} {cs : List Char},
    SpellsItems close vs cs → ∃ inner, cs = inner ++ [close] ∧ Level inner
  | _, _, _, .close hws => ⟨_, rfl, level_of_blank hws⟩
  | _, _, _, .last h hws =>
    ⟨_, (List.append_assoc ..).symm, h.level.append (level_of_blank hws)⟩
  | _, _, _, .more h hws hrest => by
    obtain ⟨inner, rfl, hinner⟩ := hrest.level
    exact ⟨_, by simp [List.append_assoc],
      h.level.append ((level_of_blank hws).append (hinner.neutral neutral_comma))⟩

theorem SpellsFields.level : ∀ {key : Value} {done fs : List (String × Value)} {cs : List Char},
    SpellsFields key done fs cs → ∃ inner, cs = inner ++ ['}'] ∧ Level inner
  | _, _, _, _, .last _ h hws =>
    ⟨_, (List.append_assoc ..).symm, h.level.append (level_of_blank hws)⟩
  | _, _, _, _, .comma _ h hws hvs => by
    refine ⟨_, ?_, h.level.append ((level_of_blank hws).append
      ((level_of_blank hvs).neutral neutral_comma))⟩
    simp
  | _, _, _, _, .more _ h hws hnext hus hrest => by
    obtain ⟨inner, rfl, hinner⟩ := hrest.level
    have key := hnext.level.append ((level_of_blank hus).append (hinner.neutral neutral_colon))
    refine ⟨_, ?_, h.level.append ((level_of_blank hws).append (key.neutral neutral_comma))⟩
    simp

end

theorem SpellsTop.level {vs : List Value} {cs : List Char} (h : SpellsTop vs cs) : Level cs := by
  induction h with
  | nil hws => exact level_of_blank hws
  | last h hws => exact h.level.append (level_of_blank hws)
  | more h hws hrest ih =>
    exact h.level.append ((level_of_blank hws).append (ih.neutral neutral_comma))

theorem SpellsWhole.level {v : Value} {cs : List Char} (h : SpellsWhole v cs) : Level cs := by
  cases h with
  | single h hws => exact h.level.append (level_of_blank hws)
  | tuple h hws hrest =>
    exact h.level.append ((level_of_blank hws).append (hrest.level.neutral neutral_comma))

/-- A whole text does not go on, behind a whole text, with a closing parenthesis. -/
theorem SpellsWhole.not_closed {v w : Value} {front back : List Char}
    (hfront : SpellsWhole w front) : ¬ SpellsWhole v (front ++ ')' :: back) := by
  intro h
  have whole := h.level []
  rw [Nest.through_append, hfront.level []] at whole
  cases whole

/-! ## Quotes behind backslashes -/

/-- No string of the text holds its own quote behind a backslash. -/
def QuotesBare (cs : List Char) : Prop :=
  ∀ front q back due, cs = front ++ q :: back → Nest.start.through front ≠ some ⟨.escaped q, due⟩

end Literal

end PageScript
