import PageScript.Proofs.Literal.Grammar

/-!
# The parser and the grammar

The readers of literals read exactly what the grammar spells.  A literal in front of a text that
stops readers is taken whole (`Spells.read`), with any fuel that three calls for every character
allow.  What a reader takes is a literal (`value_ok`).  For a whole text the two make one statement:
`read_eq_ok_iff`.

The readers are opened here and nowhere else.  What other modules say about literals they say about
`Spells` and `SpellsWhole`.
-/

namespace PageScript

namespace Literal

open Text (Blank isBlank trimLeft trimLeft_blank_cons)

/-! ## Steps of the readers -/

theorem value_trimLeft (fuel : Nat) (cs : List Char) :
    value (fuel + 1) (trimLeft cs) = value (fuel + 1) cs := by
  rw [value, value, Text.trimLeft_trimLeft]

theorem value_blank {b : Char} (hb : isBlank b = true) (fuel : Nat) (cs : List Char) :
    value (fuel + 1) (b :: cs) = value (fuel + 1) cs := by
  rw [← value_trimLeft, Text.trimLeft_cons_blank hb, value_trimLeft]

theorem value_of_trimLeft {cs : List Char} {c : Char} {rest : List Char}
    (h : trimLeft cs = c :: rest) (fuel : Nat) : value (fuel + 1) cs = value (fuel + 1) (c :: rest) := by
  rw [← value_trimLeft, h]

theorem value_list (fuel : Nat) (cs : List Char) :
    value (fuel + 1) ('[' :: cs) = match items fuel ']' cs with
      | .error f => .error f
      | .ok (vs, rest) => .ok (.list vs, rest) := rfl

theorem value_tuple (fuel : Nat) (cs : List Char) : value (fuel + 1) ('(' :: cs) = tuple fuel cs :=
  rfl

theorem value_braces (fuel : Nat) (cs : List Char) :
    value (fuel + 1) ('{' :: cs) = braces fuel cs := rfl

/-- A character that opens a container. -/
def opens (c : Char) : Bool := c == '[' || c == '(' || c == '{'

theorem opens_of_startsLexeme {c : Char} (h : startsLexeme c = true) : opens c = false := by
  cases hc : opens c with
  | false => rfl
  | true =>
    have cases : (c = '[' ∨ c = '(') ∨ c = '{' := by simpa [opens] using hc
    rcases cases with (rfl | rfl) | rfl <;> exact absurd h (by decide +kernel)

/-- The reader of literals that hold no others, by the first character. -/
def lexemeFrom (c : Char) (cs : List Char) : Read Value :=
  if isQuote c then
    match strings cs.length c cs with
    | .error f => .error f
    | .ok (s, rest) => .ok (.text (String.ofList s), rest)
  else if startsNumber c then number false (c :: cs)
  else if c = '-' ∨ c = '+' then
    match trimLeft cs with
    | d :: rest =>
      if startsNumber d then number (c = '-') (d :: rest)
      else .error (.problem .signWithoutNumber (d :: rest).length)
    | [] => .error (.problem .signWithoutNumber 0)
  else if Text.isLetter c ∨ c = '_' then name (c :: cs)
  else .error (.problem (.unexpectedChar c) (c :: cs).length)

theorem value_lexeme {c : Char} (hb : isBlank c = false) (ho : opens c = false) (fuel : Nat)
    (cs : List Char) : value (fuel + 1) (c :: cs) = lexemeFrom c cs := by
  simp only [opens, Bool.or_eq_false_iff, beq_eq_false_iff_ne] at ho
  rw [value, Text.trimLeft_cons_ink hb]
  dsimp only
  rw [if_neg ho.1.1, if_neg ho.1.2, if_neg ho.2]
  rfl

theorem lexemeFrom_quote {c : Char} (h : isQuote c = true) (cs : List Char) :
    lexemeFrom c cs = match strings cs.length c cs with
      | .error f => .error f
      | .ok (s, rest) => .ok (.text (String.ofList s), rest) := if_pos h

theorem not_isQuote_of_startsNumber {c : Char} (h : startsNumber c = true) : isQuote c = false := by
  cases hq : isQuote c with
  | false => rfl
  | true =>
    have := (mark_facts c (mem_marks_of_isQuote hq)).2.2.2.1
    rw [h] at this
    cases this

theorem lexemeFrom_number {c : Char} (h : startsNumber c = true) (cs : List Char) :
    lexemeFrom c cs = number false (c :: cs) := by
  rw [lexemeFrom, if_neg (by simp [not_isQuote_of_startsNumber h]), if_pos h]

theorem lexemeFrom_sign {sign : Char} (h : sign = '-' ∨ sign = '+') {cs rest : List Char} {d : Char}
    (ht : trimLeft cs = d :: rest) (hd : startsNumber d = true) :
    lexemeFrom sign cs = number (sign = '-') (d :: rest) := by
  have hq : isQuote sign = false := by rcases h with rfl | rfl <;> rfl
  have hn : startsNumber sign = false := by rcases h with rfl | rfl <;> rfl
  rw [lexemeFrom, if_neg (by simp [hq]), if_neg (by simp [hn]), if_pos h, ht]
  exact if_pos hd

theorem not_isLetter_of_startsNumber {c : Char} (h : startsNumber c = true) :
    Text.isLetter c = false := by
  have range : c.toNat ≤ 57 := by
    simp only [startsNumber, Reading.isDigit, Bool.or_eq_true, Bool.and_eq_true,
      decide_eq_true_eq, beq_iff_eq] at h
    rcases h with ⟨-, hle⟩ | rfl
    · exact hle
    · decide
  have small : ∀ d : Char, 57 < d.toNat → ¬ d ≤ c := by
    intro d hd hle
    have : d.toNat ≤ c.toNat := hle
    omega
  simp only [Text.isLetter, Bool.or_eq_false_iff, Bool.and_eq_false_iff, decide_eq_false_iff_not]
  exact ⟨⟨.inl (small 'a' (by decide)), .inl (small 'A' (by decide))⟩, .inl (by omega)⟩

theorem lexemeFrom_letter {c : Char} (h : Text.isLetter c = true) (cs : List Char) :
    lexemeFrom c cs = name (c :: cs) := by
  have hname : isNameChar c = true := by simp [isNameChar, Text.isWordChar, h]
  have hq : isQuote c = false := by
    cases hq : isQuote c with
    | false => rfl
    | true =>
      rw [(mark_facts c (mem_marks_of_isQuote hq)).1] at hname
      cases hname
  have hn : startsNumber c = false := by
    cases hn : startsNumber c with
    | false => rfl
    | true => exact absurd h (by simp [not_isLetter_of_startsNumber hn])
  have hs : ¬ (c = '-' ∨ c = '+') := by
    rintro (rfl | rfl) <;> exact absurd h (by decide +kernel)
  rw [lexemeFrom, if_neg (by simp [hq]), if_neg (by simp [hn]), if_neg hs, if_pos (.inl h)]

/-! ## Lexemes are taken whole -/

theorem Lexeme.read {v : Value} {cs : List Char} (h : Lexeme v cs) {more : List Char}
    (hm : Stops more) (fuel : Nat) : value (fuel + 1) (cs ++ more) = .ok (v, more) := by
  obtain ⟨c, rest, rfl, hc⟩ := h.head
  have hstart := cannotStart_of_startsLexeme hc
  rw [cannotStart, Bool.or_eq_false_iff] at hstart
  rw [List.cons_append, value_lexeme hstart.1 (opens_of_startsLexeme hc)]
  cases h with
  | strings h =>
    obtain ⟨q, body, hq, heq⟩ := h.head
    cases heq
    rw [lexemeFrom_quote hq, h.read rfl hm (Nat.le_refl _)]
  | number hc h =>
    rw [lexemeFrom_number hc]
    exact h.facts.2.2 more hm
  | @signed _ sign d ws cs hsign hws hd h =>
    have hink : isBlank d = false :=
      isBlank_of_not_mem_marks (h.facts.2.1 d List.mem_cons_self)
    have ht : trimLeft (ws ++ d :: cs ++ more) = d :: (cs ++ more) := by
      rw [List.append_assoc, Text.trimLeft_append hws, List.cons_append,
        Text.trimLeft_cons_ink hink]
    rw [lexemeFrom_sign hsign ht hd]
    exact h.facts.2.2 more hm
  | constant h =>
    have hletter : Text.isLetter c = true := h.head rfl
    rw [lexemeFrom_letter hletter]
    exact h.read hm
  | marked h =>
    obtain ⟨d, tail, heq, hletter⟩ := h.head
    cases heq
    rw [lexemeFrom_letter hletter]
    exact h.read more

/-! ## Items, tuples and fields -/

/-- A mark that closes a container. -/
def closes (c : Char) : Bool := c == ']' || c == ')' || c == '}'

theorem closes_facts {c : Char} (h : closes c = true) :
    isDelimiter c = true ∧ isBlank c = false ∧ c ≠ ',' ∧ c ≠ ':' := by
  have cases : (c = ']' ∨ c = ')') ∨ c = '}' := by simpa [closes] using h
  rcases cases with (rfl | rfl) | rfl <;> decide +kernel

theorem items_close {ws : List Char} (hws : Blank ws) {close : Char} (hc : closes close = true)
    (fuel : Nat) (more : List Char) :
    items (fuel + 1) close (ws ++ close :: more) = .ok ([], more) := by
  rw [items, trimLeft_blank_cons hws (closes_facts hc).2.1]
  exact if_pos rfl

/-- Behind a literal that is an item, the reader looks for the closing mark and for a comma. -/
theorem items_value {fuel : Nat} {close : Char} {cs tail rest : List Char} {c : Char} {v : Value}
    (hc : trimLeft cs = c :: tail) (hne : c ≠ close)
    (hv : value (fuel + 1) cs = .ok (v, rest)) :
    items (fuel + 3) close cs = match trimLeft rest with
      | d :: more =>
        if d = close then .ok ([v], more)
        else if d = ',' then
          match items (fuel + 1) close more with
          | .error f => .error f
          | .ok (vs, more) => .ok (v :: vs, more)
        else .error (expectedCommaOr close (d :: more))
      | [] => .error (expectedCommaOr close []) := by
  rw [items, hc]
  dsimp only
  rewrite [if_neg hne, itemsFrom, ← value_of_trimLeft hc, hv]
  rfl

theorem tuple_close {ws : List Char} (hws : Blank ws) (fuel : Nat) (more : List Char) :
    tuple (fuel + 1) (ws ++ ')' :: more) = .ok (.list [], more) := by
  rw [tuple, trimLeft_blank_cons hws rfl]
  rfl

theorem tuple_value {fuel : Nat} {cs tail rest : List Char} {c : Char} {v : Value}
    (hc : trimLeft cs = c :: tail) (hne : c ≠ ')')
    (hv : value (fuel + 1) cs = .ok (v, rest)) :
    tuple (fuel + 2) cs = match trimLeft rest with
      | d :: more =>
        if d = ')' then .ok (v, more)
        else if d = ',' then
          match items (fuel + 1) ')' more with
          | .error f => .error f
          | .ok (vs, more) => .ok (.list (v :: vs), more)
        else .error (expectedCommaOr ')' (d :: more))
      | [] => .error (expectedCommaOr ')' []) := by
  rw [tuple, hc]
  split
  · next heq => cases heq; exact absurd rfl hne
  · rewrite [← value_of_trimLeft hc, hv]
    rfl

theorem braces_close {ws : List Char} (hws : Blank ws) (fuel : Nat) (more : List Char) :
    braces (fuel + 1) (ws ++ '}' :: more) = .ok (.object [], more) := by
  rw [braces, trimLeft_blank_cons hws rfl]
  rfl

theorem braces_value {fuel : Nat} {cs tail rest : List Char} {c : Char} {v : Value}
    (hc : trimLeft cs = c :: tail) (hne : c ≠ '}')
    (hv : value (fuel + 1) cs = .ok (v, rest)) :
    braces (fuel + 2) cs = match trimLeft rest with
      | d :: more =>
        if d = ':' then
          match fields (fuel + 1) v [] more with
          | .error f => .error f
          | .ok (fs, more) => .ok (.object fs, more)
        else if d = '}' then .ok (.list [v], more)
        else if d = ',' then
          match items (fuel + 1) '}' more with
          | .error f => .error f
          | .ok (vs, more) => .ok (.list (distinct (v :: vs)), more)
        else .error (expectedCommaOr '}' (d :: more))
      | [] => .error (expectedCommaOr '}' []) := by
  rw [braces, hc]
  split
  · next heq => cases heq; exact absurd rfl hne
  · rewrite [← value_of_trimLeft hc, hv]
    rfl

/-- The rest of a dict whose first value has been read. -/
theorem fields_value {fuel : Nat} {key v : Value} {k : String} {done : List (String × Value)}
    {cs rest : List Char} (hk : keyText? key = some k) (hv : value fuel cs = .ok (v, rest)) :
    fields (fuel + 1) key done cs = match trimLeft rest with
      | c :: rest =>
        if c = '}' then .ok (Value.insertField k v done, rest)
        else if c = ',' then
          match trimLeft rest with
          | '}' :: rest => .ok (Value.insertField k v done, rest)
          | rest =>
            match value fuel rest with
            | .error f => .error f
            | .ok (key, rest) =>
              match trimLeft rest with
              | ':' :: rest => fields fuel key (Value.insertField k v done) rest
              | rest => .error (.problem .expectedColon rest.length)
        else .error (expectedCommaOr '}' (c :: rest))
      | [] => .error (expectedCommaOr '}' []) := by
  rw [fields, hv]
  dsimp only
  rewrite [hk]
  rfl

/-- Behind a comma that is not the last one, a dict goes on with a key. -/
theorem fields_next {fuel : Nat} {key v next : Value} {k : String} {done : List (String × Value)}
    {cs ws more us rest tail : List Char} {c : Char} (hk : keyText? key = some k)
    (hv : value (fuel + 1) cs = .ok (v, ws ++ ',' :: more)) (hws : Blank ws)
    (hc : trimLeft more = c :: tail) (hne : c ≠ '}')
    (hnext : value (fuel + 1) more = .ok (next, us ++ ':' :: rest)) (hus : Blank us) :
    fields (fuel + 2) key done cs = fields (fuel + 1) next (Value.insertField k v done) rest := by
  rw [fields_value hk hv, trimLeft_blank_cons hws rfl]
  show (match trimLeft more with | '}' :: _ => _ | rest => _) = _
  rw [hc]
  split
  · next heq => cases heq; exact absurd rfl hne
  · rw [← value_of_trimLeft hc, hnext]
    dsimp only
    rw [trimLeft_blank_cons hus rfl]
    rfl

/-! ## Literals are taken whole -/

mutual

/-- A literal in front of a text that stops readers is taken whole. -/
theorem Spells.read : ∀ {v : Value} {cs : List Char}, Spells v cs → ∀ {more : List Char} {fuel : Nat},
    Stops more → 3 * (cs ++ more).length + 1 ≤ fuel → value fuel (cs ++ more) = .ok (v, more)
  | _, _, .blank hb h, more, fuel, hm, hf => by
    obtain ⟨fuel, rfl⟩ : ∃ f, fuel = f + 1 := ⟨fuel - 1, by omega⟩
    rw [List.cons_append] at hf ⊢
    rw [value_blank hb]
    exact h.read hm (by rw [List.length_cons] at hf; omega)
  | _, _, .lexeme h, more, fuel, hm, hf => by
    obtain ⟨fuel, rfl⟩ : ∃ f, fuel = f + 1 := ⟨fuel - 1, by omega⟩
    exact h.read hm fuel
  | _, _, .list h, more, fuel, hm, hf => by
    obtain ⟨fuel, rfl⟩ : ∃ f, fuel = f + 1 := ⟨fuel - 1, by omega⟩
    rw [List.cons_append, List.length_cons] at hf
    rw [List.cons_append, value_list, h.read rfl (by omega)]
  | _, _, .unit hws, more, fuel, hm, hf => by
    obtain ⟨fuel, rfl⟩ : ∃ f, fuel = f + 2 :=
      ⟨fuel - 2, by rw [List.cons_append, List.length_cons] at hf; omega⟩
    rw [List.cons_append, value_tuple, List.append_assoc]
    exact tuple_close hws fuel more
  | _, _, @Spells.group v cs ws h hws, more, fuel, hm, hf => by
    obtain ⟨fuel, rfl⟩ : ∃ f, fuel = f + 3 :=
      ⟨fuel - 3, by rw [List.cons_append, List.length_cons] at hf; omega⟩
    simp only [List.cons_append, List.append_assoc, List.nil_append] at hf ⊢
    obtain ⟨c, tail, hc, hd⟩ := h.head_append (ws ++ ')' :: more)
    have hv : value (fuel + 1) (cs ++ (ws ++ ')' :: more)) = .ok (v, ws ++ ')' :: more) :=
      h.read ((stops_cons rfl more).blank hws) (by rw [List.length_cons] at hf; omega)
    rw [value_tuple, tuple_value hc (by rintro rfl; cases hd) hv, trimLeft_blank_cons hws rfl]
    rfl
  | _, _, @Spells.tuple v vs cs ws rest h hws hrest, more, fuel, hm, hf => by
    obtain ⟨fuel, rfl⟩ : ∃ f, fuel = f + 3 :=
      ⟨fuel - 3, by rw [List.cons_append, List.length_cons] at hf; omega⟩
    simp only [List.cons_append, List.append_assoc] at hf ⊢
    obtain ⟨c, tail, hc, hd⟩ := h.head_append (ws ++ ',' :: (rest ++ more))
    have hv : value (fuel + 1) (cs ++ (ws ++ ',' :: (rest ++ more)))
        = .ok (v, ws ++ ',' :: (rest ++ more)) :=
      h.read ((stops_cons rfl _).blank hws) (by rw [List.length_cons] at hf; omega)
    have hvs : items (fuel + 1) ')' (rest ++ more) = .ok (vs, more) :=
      hrest.read rfl (by simp only [List.length_append, List.length_cons] at hf ⊢; omega)
    rw [value_tuple, tuple_value hc (by rintro rfl; cases hd) hv, trimLeft_blank_cons hws rfl]
    show (match items (fuel + 1) ')' (rest ++ more) with | .error f => _ | .ok (vs, more) => _) = _
    rw [hvs]
  | _, _, .empty hws, more, fuel, hm, hf => by
    obtain ⟨fuel, rfl⟩ : ∃ f, fuel = f + 2 :=
      ⟨fuel - 2, by rw [List.cons_append, List.length_cons] at hf; omega⟩
    rw [List.cons_append, value_braces, List.append_assoc]
    exact braces_close hws fuel more
  | _, _, @Spells.single v cs ws h hws, more, fuel, hm, hf => by
    obtain ⟨fuel, rfl⟩ : ∃ f, fuel = f + 3 :=
      ⟨fuel - 3, by rw [List.cons_append, List.length_cons] at hf; omega⟩
    simp only [List.cons_append, List.append_assoc, List.nil_append] at hf ⊢
    obtain ⟨c, tail, hc, hd⟩ := h.head_append (ws ++ '}' :: more)
    have hv : value (fuel + 1) (cs ++ (ws ++ '}' :: more)) = .ok (v, ws ++ '}' :: more) :=
      h.read ((stops_cons rfl more).blank hws) (by rw [List.length_cons] at hf; omega)
    rw [value_braces, braces_value hc (by rintro rfl; cases hd) hv, trimLeft_blank_cons hws rfl]
    rfl
  | _, _, @Spells.set v vs cs ws rest h hws hrest, more, fuel, hm, hf => by
    obtain ⟨fuel, rfl⟩ : ∃ f, fuel = f + 3 :=
      ⟨fuel - 3, by rw [List.cons_append, List.length_cons] at hf; omega⟩
    simp only [List.cons_append, List.append_assoc] at hf ⊢
    obtain ⟨c, tail, hc, hd⟩ := h.head_append (ws ++ ',' :: (rest ++ more))
    have hv : value (fuel + 1) (cs ++ (ws ++ ',' :: (rest ++ more)))
        = .ok (v, ws ++ ',' :: (rest ++ more)) :=
      h.read ((stops_cons rfl _).blank hws) (by rw [List.length_cons] at hf; omega)
    have hvs : items (fuel + 1) '}' (rest ++ more) = .ok (vs, more) :=
      hrest.read rfl (by simp only [List.length_append, List.length_cons] at hf ⊢; omega)
    rw [value_braces, braces_value hc (by rintro rfl; cases hd) hv, trimLeft_blank_cons hws rfl]
    show (match items (fuel + 1) '}' (rest ++ more) with | .error f => _ | .ok (vs, more) => _) = _
    rw [hvs]
  | _, _, @Spells.dict key fs cs ws rest h hws hrest, more, fuel, hm, hf => by
    obtain ⟨fuel, rfl⟩ : ∃ f, fuel = f + 3 :=
      ⟨fuel - 3, by rw [List.cons_append, List.length_cons] at hf; omega⟩
    simp only [List.cons_append, List.append_assoc] at hf ⊢
    obtain ⟨c, tail, hc, hd⟩ := h.head_append (ws ++ ':' :: (rest ++ more))
    have hv : value (fuel + 1) (cs ++ (ws ++ ':' :: (rest ++ more)))
        = .ok (key, ws ++ ':' :: (rest ++ more)) :=
      h.read ((stops_cons rfl _).blank hws) (by rw [List.length_cons] at hf; omega)
    have hfs : fields (fuel + 1) key [] (rest ++ more) = .ok (fs, more) :=
      hrest.read (by simp only [List.length_append, List.length_cons] at hf ⊢; omega)
    rw [value_braces, braces_value hc (by rintro rfl; cases hd) hv, trimLeft_blank_cons hws rfl]
    show (match fields (fuel + 1) _ [] (rest ++ more) with | .error f => _ | .ok (fs, more) => _) = _
    rw [hfs]

theorem SpellsItems.read : ∀ {close : Char} {vs : List Value} {cs : List Char},
    SpellsItems close vs cs → ∀ {more : List Char} {fuel : Nat}, closes close = true →
    3 * (cs ++ more).length + 3 ≤ fuel → items fuel close (cs ++ more) = .ok (vs, more)
  | _, _, _, .close hws, more, fuel, hc, hf => by
    obtain ⟨fuel, rfl⟩ : ∃ f, fuel = f + 1 := ⟨fuel - 1, by omega⟩
    rw [List.append_assoc]
    exact items_close hws hc fuel more
  | _, _, _, @SpellsItems.last close v cs ws h hws, more, fuel, hcl, hf => by
    obtain ⟨fuel, rfl⟩ : ∃ f, fuel = f + 3 := ⟨fuel - 3, by omega⟩
    obtain ⟨hdelim, hink, -⟩ := closes_facts hcl
    simp only [List.append_assoc, List.cons_append, List.nil_append] at hf ⊢
    obtain ⟨c, tail, hc, hd⟩ := h.head_append (ws ++ close :: more)
    have hv : value (fuel + 1) (cs ++ (ws ++ close :: more)) = .ok (v, ws ++ close :: more) :=
      h.read ((stops_cons hdelim more).blank hws) (by omega)
    rw [items_value hc (by rintro rfl; rw [hd] at hdelim; cases hdelim) hv,
      trimLeft_blank_cons hws hink]
    exact if_pos rfl
  | _, _, _, @SpellsItems.more close v vs cs ws rest h hws hrest, more, fuel, hcl, hf => by
    obtain ⟨fuel, rfl⟩ : ∃ f, fuel = f + 3 := ⟨fuel - 3, by omega⟩
    obtain ⟨hdelim, hink, hcomma, -⟩ := closes_facts hcl
    simp only [List.append_assoc, List.cons_append] at hf ⊢
    obtain ⟨c, tail, hc, hd⟩ := h.head_append (ws ++ ',' :: (rest ++ more))
    have hv : value (fuel + 1) (cs ++ (ws ++ ',' :: (rest ++ more)))
        = .ok (v, ws ++ ',' :: (rest ++ more)) :=
      h.read ((stops_cons rfl _).blank hws) (by omega)
    have hvs : items (fuel + 1) close (rest ++ more) = .ok (vs, more) :=
      hrest.read hcl (by simp only [List.length_append, List.length_cons] at hf ⊢; omega)
    rw [items_value hc (by rintro rfl; rw [hd] at hdelim; cases hdelim) hv,
      trimLeft_blank_cons hws rfl]
    dsimp only
    rw [if_neg hcomma.symm, if_pos rfl, hvs]

theorem SpellsFields.read : ∀ {key : Value} {done fs : List (String × Value)} {cs : List Char},
    SpellsFields key done fs cs → ∀ {more : List Char} {fuel : Nat},
    3 * (cs ++ more).length + 3 ≤ fuel → fields fuel key done (cs ++ more) = .ok (fs, more)
  | _, _, _, _, @SpellsFields.last key v k done cs ws hk h hws, more, fuel, hf => by
    obtain ⟨fuel, rfl⟩ : ∃ f, fuel = f + 1 := ⟨fuel - 1, by omega⟩
    simp only [List.append_assoc, List.cons_append, List.nil_append] at hf ⊢
    have hv : value fuel (cs ++ (ws ++ '}' :: more)) = .ok (v, ws ++ '}' :: more) :=
      h.read ((stops_cons rfl more).blank hws) (by omega)
    rw [fields_value hk hv, trimLeft_blank_cons hws rfl]
    rfl
  | _, _, _, _, @SpellsFields.comma key v k done cs ws vs hk h hws hvs, more, fuel, hf => by
    obtain ⟨fuel, rfl⟩ : ∃ f, fuel = f + 1 := ⟨fuel - 1, by omega⟩
    simp only [List.append_assoc, List.cons_append, List.nil_append] at hf ⊢
    have hv : value fuel (cs ++ (ws ++ ',' :: (vs ++ '}' :: more)))
        = .ok (v, ws ++ ',' :: (vs ++ '}' :: more)) :=
      h.read ((stops_cons rfl _).blank hws) (by omega)
    rw [fields_value hk hv, trimLeft_blank_cons hws rfl]
    show (match trimLeft (vs ++ '}' :: more) with | '}' :: _ => _ | rest => _) = _
    rw [trimLeft_blank_cons hvs rfl]
    rfl
  | _, _, _, _, @SpellsFields.more key v next k done fs cs ws ds us rest hk h hws hnext hus hrest,
      more, fuel, hf => by
    obtain ⟨fuel, rfl⟩ : ∃ f, fuel = f + 2 := ⟨fuel - 2, by omega⟩
    simp only [List.append_assoc, List.cons_append] at hf ⊢
    have hv : value (fuel + 1) (cs ++ (ws ++ ',' :: (ds ++ (us ++ ':' :: (rest ++ more)))))
        = .ok (v, ws ++ ',' :: (ds ++ (us ++ ':' :: (rest ++ more)))) :=
      h.read ((stops_cons rfl _).blank hws) (by omega)
    simp only [List.length_append, List.length_cons] at hf
    obtain ⟨c, tail, hc, hd⟩ := hnext.head_append (us ++ ':' :: (rest ++ more))
    have hn : value (fuel + 1) (ds ++ (us ++ ':' :: (rest ++ more)))
        = .ok (next, us ++ ':' :: (rest ++ more)) :=
      hnext.read ((stops_cons rfl _).blank hus)
        (by simp only [List.length_append, List.length_cons]; omega)
    rw [fields_next hk hv hws hc (by rintro rfl; cases hd) hn hus]
    exact hrest.read (by simp only [List.length_append]; omega)

end

/-! ## What the readers take -/

/-- A number that is read keeps its first character. -/
theorem numeral_of_number_cons {negative : Bool} {c : Char} {cs rest : List Char} {v : Value}
    (h : number negative (c :: cs) = .ok (v, rest)) :
    ∃ tail, cs = tail ++ rest ∧ Numeral negative v (c :: tail) := by
  obtain ⟨used, heq, hnum⟩ := numeral_of_number h
  cases used with
  | nil => exact absurd rfl hnum.facts.1
  | cons d tail =>
    rw [List.cons_append, List.cons.injEq] at heq
    obtain ⟨rfl, rfl⟩ := heq
    exact ⟨tail, rfl, hnum⟩

/-- What the reader of literals without others takes is such a literal. -/
theorem lexemeFrom_ok {c : Char} {cs rest : List Char} {v : Value}
    (h : lexemeFrom c cs = .ok (v, rest)) : ∃ used, c :: cs = used ++ rest ∧ Lexeme v used := by
  unfold lexemeFrom at h
  by_cases hq : isQuote c = true
  · rw [if_pos hq] at h
    cases hs : strings cs.length c cs with
    | error f => rw [hs] at h; cases h
    | ok r =>
      obtain ⟨s, rest'⟩ := r
      rw [hs] at h
      cases h
      obtain ⟨used, heq, hstrings⟩ := strings_ok cs.length c cs (Nat.le_refl _) hq hs
      exact ⟨used, heq, .strings hstrings⟩
  · rw [if_neg hq] at h
    by_cases hn : startsNumber c = true
    · rw [if_pos hn] at h
      obtain ⟨tail, rfl, hnum⟩ := numeral_of_number_cons h
      exact ⟨c :: tail, rfl, .number hn hnum⟩
    · rw [if_neg hn] at h
      by_cases hs : c = '-' ∨ c = '+'
      · rw [if_pos hs] at h
        cases ht : trimLeft cs with
        | nil => rw [ht] at h; cases h
        | cons d ds =>
          rw [ht] at h
          dsimp only at h
          by_cases hd : startsNumber d = true
          · rw [if_pos hd] at h
            obtain ⟨ws, hws, rfl⟩ := Text.exists_blank_cons ht
            obtain ⟨tail, rfl, hnum⟩ := numeral_of_number_cons h
            exact ⟨c :: (ws ++ d :: tail), by simp, .signed hs hws hd hnum⟩
          · rw [if_neg hd] at h
            cases h
      · rw [if_neg hs] at h
        by_cases hl : Text.isLetter c = true ∨ c = '_'
        · rw [if_pos hl] at h
          obtain ⟨used, heq, hconst | hmarked⟩ := name_ok h
          · exact ⟨used, heq, .constant hconst⟩
          · exact ⟨used, heq, .marked hmarked⟩
        · rw [if_neg hl] at h
          cases h

/-- With this fuel, every reader takes what the grammar spells. -/
structure Sound (fuel : Nat) : Prop where
  value : ∀ {cs rest : List Char} {v : Value}, value fuel cs = .ok (v, rest) →
    ∃ used, cs = used ++ rest ∧ Spells v used
  items : ∀ {close : Char} {cs rest : List Char} {vs : List Value},
    items fuel close cs = .ok (vs, rest) → ∃ used, cs = used ++ rest ∧ SpellsItems close vs used
  itemsFrom : ∀ {close : Char} {cs rest : List Char} {vs : List Value},
    itemsFrom fuel close cs = .ok (vs, rest) → ∃ used, cs = used ++ rest ∧ SpellsItems close vs used
  tuple : ∀ {cs rest : List Char} {v : Value}, tuple fuel cs = .ok (v, rest) →
    ∃ used, cs = used ++ rest ∧ Spells v ('(' :: used)
  braces : ∀ {cs rest : List Char} {v : Value}, braces fuel cs = .ok (v, rest) →
    ∃ used, cs = used ++ rest ∧ Spells v ('{' :: used)
  fields : ∀ {key : Value} {done fs : List (String × Value)} {cs rest : List Char},
    fields fuel key done cs = .ok (fs, rest) →
    ∃ used, cs = used ++ rest ∧ SpellsFields key done fs used

theorem sound_zero : Sound 0 where
  value h := by cases h
  items h := by cases h
  itemsFrom h := by cases h
  tuple h := by cases h
  braces h := by cases h
  fields h := by cases h

section

variable {fuel : Nat} (ih : Sound fuel)

include ih

theorem Sound.value_succ {cs rest : List Char} {v : Value}
    (h : Literal.value (fuel + 1) cs = .ok (v, rest)) :
    ∃ used, cs = used ++ rest ∧ Spells v used := by
  cases ht : trimLeft cs with
  | nil =>
    rw [Literal.value, ht] at h
    cases h
  | cons c ds =>
    obtain ⟨ws, hws, rfl⟩ := Text.exists_blank_cons ht
    have hb := Text.isBlank_of_trimLeft ht
    rw [value_of_trimLeft ht] at h
    obtain ⟨used, heq, hspells⟩ : ∃ used, c :: ds = used ++ rest ∧ Spells v used := by
      cases ho : opens c with
      | false =>
        rw [value_lexeme hb ho] at h
        obtain ⟨used, heq, hlexeme⟩ := lexemeFrom_ok h
        exact ⟨used, heq, .lexeme hlexeme⟩
      | true =>
        have cases : (c = '[' ∨ c = '(') ∨ c = '{' := by simpa [opens] using ho
        rcases cases with (rfl | rfl) | rfl
        · rw [value_list] at h
          cases hi : Literal.items fuel ']' ds with
          | error f => rw [hi] at h; cases h
          | ok r =>
            rw [hi] at h
            cases h
            obtain ⟨used, rfl, hitems⟩ := ih.items hi
            exact ⟨'[' :: used, rfl, .list hitems⟩
        · rw [value_tuple] at h
          obtain ⟨used, rfl, hspells⟩ := ih.tuple h
          exact ⟨'(' :: used, rfl, hspells⟩
        · rw [value_braces] at h
          obtain ⟨used, rfl, hspells⟩ := ih.braces h
          exact ⟨'{' :: used, rfl, hspells⟩
    refine ⟨ws ++ used, ?_, hspells.blanks hws⟩
    rw [heq, List.append_assoc]

theorem Sound.items_succ {close : Char} {cs rest : List Char} {vs : List Value}
    (h : Literal.items (fuel + 1) close cs = .ok (vs, rest)) :
    ∃ used, cs = used ++ rest ∧ SpellsItems close vs used := by
  obtain ⟨ws, hws, hcs⟩ := Text.exists_blank_append cs
  obtain ⟨used, heq, hitems⟩ : ∃ used, trimLeft cs = used ++ rest ∧ SpellsItems close vs used := by
    rw [Literal.items] at h
    cases ht : trimLeft cs with
    | nil =>
      rw [ht] at h
      exact ih.itemsFrom h
    | cons c ds =>
      rw [ht] at h
      dsimp only at h
      by_cases hc : c = close
      · rw [if_pos hc] at h
        cases h
        exact ⟨[c], rfl, hc ▸ .close Text.blank_nil⟩
      · rw [if_neg hc] at h
        exact ih.itemsFrom h
  refine ⟨ws ++ used, ?_, hitems.blanks hws⟩
  rw [hcs, heq, List.append_assoc]

/-- What the reader of literals took in front of a mark. -/
theorem Sound.before {cs behind more : List Char} {c : Char} {v : Value}
    (hv : Literal.value fuel cs = .ok (v, behind)) (ht : trimLeft behind = c :: more) :
    ∃ used ws, cs = used ++ (ws ++ c :: more) ∧ Spells v used ∧ Blank ws := by
  obtain ⟨used, rfl, hspells⟩ := ih.value hv
  obtain ⟨ws, hws, rfl⟩ := Text.exists_blank_cons ht
  exact ⟨used, ws, rfl, hspells, hws⟩

/-- The same of a text without the blanks in front. -/
theorem Sound.before_trimLeft {cs behind more : List Char} {c : Char} {v : Value}
    (hv : Literal.value fuel (trimLeft cs) = .ok (v, behind)) (ht : trimLeft behind = c :: more) :
    ∃ used ws, cs = used ++ (ws ++ c :: more) ∧ Spells v used ∧ Blank ws := by
  obtain ⟨front, hfront, hcs⟩ := Text.exists_blank_append cs
  obtain ⟨used, ws, heq, hspells, hws⟩ := ih.before hv ht
  refine ⟨front ++ used, ws, ?_, hspells.blanks hfront, hws⟩
  rw [hcs, heq, List.append_assoc]

theorem Sound.itemsFrom_succ {close : Char} {cs rest : List Char} {vs : List Value}
    (h : Literal.itemsFrom (fuel + 1) close cs = .ok (vs, rest)) :
    ∃ used, cs = used ++ rest ∧ SpellsItems close vs used := by
  rw [Literal.itemsFrom] at h
  cases hv : Literal.value fuel cs with
  | error f => rw [hv] at h; cases h
  | ok r =>
    obtain ⟨v, behind⟩ := r
    rw [hv] at h
    dsimp only at h
    cases ht : trimLeft behind with
    | nil => rw [ht] at h; cases h
    | cons c more =>
      obtain ⟨used, ws, rfl, hspells, hws⟩ := ih.before hv ht
      rw [ht] at h
      dsimp only at h
      by_cases hc : c = close
      · rw [if_pos hc] at h
        cases h
        exact ⟨used ++ (ws ++ [c]), by simp, hc ▸ .last hspells hws⟩
      · rw [if_neg hc] at h
        by_cases hcomma : c = ','
        · rw [if_pos hcomma] at h
          cases hi : Literal.items fuel close more with
          | error f => rw [hi] at h; cases h
          | ok r =>
            rw [hi] at h
            cases h
            obtain ⟨tail, rfl, hitems⟩ := ih.items hi
            exact ⟨used ++ (ws ++ c :: tail), by simp, hcomma ▸ .more hspells hws hitems⟩
        · rw [if_neg hcomma] at h
          cases h

theorem Sound.tuple_succ {cs rest : List Char} {v : Value}
    (h : Literal.tuple (fuel + 1) cs = .ok (v, rest)) :
    ∃ used, cs = used ++ rest ∧ Spells v ('(' :: used) := by
  rw [Literal.tuple] at h
  split at h
  · next ht =>
    cases h
    obtain ⟨ws, hws, rfl⟩ := Text.exists_blank_cons ht
    exact ⟨ws ++ [')'], by simp, .unit hws⟩
  · cases hv : Literal.value fuel (trimLeft cs) with
    | error f => rw [hv] at h; cases h
    | ok r =>
      obtain ⟨first, behind⟩ := r
      rw [hv] at h
      dsimp only at h
      cases ht : trimLeft behind with
      | nil => rw [ht] at h; cases h
      | cons c more =>
        obtain ⟨used, ws, rfl, hspells, hws⟩ := ih.before_trimLeft hv ht
        rw [ht] at h
        dsimp only at h
        by_cases hc : c = ')'
        · rw [if_pos hc] at h
          cases h
          exact ⟨used ++ (ws ++ [c]), by simp, hc ▸ .group hspells hws⟩
        · rw [if_neg hc] at h
          by_cases hcomma : c = ','
          · rw [if_pos hcomma] at h
            cases hi : Literal.items fuel ')' more with
            | error f => rw [hi] at h; cases h
            | ok r =>
              rw [hi] at h
              cases h
              obtain ⟨tail, rfl, hitems⟩ := ih.items hi
              exact ⟨used ++ (ws ++ c :: tail), by simp, hcomma ▸ .tuple hspells hws hitems⟩
          · rw [if_neg hcomma] at h
            cases h

theorem Sound.braces_succ {cs rest : List Char} {v : Value}
    (h : Literal.braces (fuel + 1) cs = .ok (v, rest)) :
    ∃ used, cs = used ++ rest ∧ Spells v ('{' :: used) := by
  rw [Literal.braces] at h
  split at h
  · next ht =>
    cases h
    obtain ⟨ws, hws, rfl⟩ := Text.exists_blank_cons ht
    exact ⟨ws ++ ['}'], by simp, .empty hws⟩
  · cases hv : Literal.value fuel (trimLeft cs) with
    | error f => rw [hv] at h; cases h
    | ok r =>
      obtain ⟨first, behind⟩ := r
      rw [hv] at h
      dsimp only at h
      cases ht : trimLeft behind with
      | nil => rw [ht] at h; cases h
      | cons c more =>
        obtain ⟨used, ws, rfl, hspells, hws⟩ := ih.before_trimLeft hv ht
        rw [ht] at h
        dsimp only at h
        by_cases hcolon : c = ':'
        · rw [if_pos hcolon] at h
          cases hf : Literal.fields fuel first [] more with
          | error f => rw [hf] at h; cases h
          | ok r =>
            rw [hf] at h
            cases h
            obtain ⟨tail, rfl, hfields⟩ := ih.fields hf
            exact ⟨used ++ (ws ++ c :: tail), by simp, hcolon ▸ .dict hspells hws hfields⟩
        · rw [if_neg hcolon] at h
          by_cases hc : c = '}'
          · rw [if_pos hc] at h
            cases h
            exact ⟨used ++ (ws ++ [c]), by simp, hc ▸ .single hspells hws⟩
          · rw [if_neg hc] at h
            by_cases hcomma : c = ','
            · rw [if_pos hcomma] at h
              cases hi : Literal.items fuel '}' more with
              | error f => rw [hi] at h; cases h
              | ok r =>
                rw [hi] at h
                cases h
                obtain ⟨tail, rfl, hitems⟩ := ih.items hi
                exact ⟨used ++ (ws ++ c :: tail), by simp, hcomma ▸ .set hspells hws hitems⟩
            · rw [if_neg hcomma] at h
              cases h

theorem Sound.fields_succ {key : Value} {done fs : List (String × Value)} {cs rest : List Char}
    (h : Literal.fields (fuel + 1) key done cs = .ok (fs, rest)) :
    ∃ used, cs = used ++ rest ∧ SpellsFields key done fs used := by
  cases hv : Literal.value fuel cs with
  | error f => rw [Literal.fields, hv] at h; cases h
  | ok r =>
    obtain ⟨v, behind⟩ := r
    cases hk : keyText? key with
    | none => rw [Literal.fields, hv] at h; dsimp only at h; rw [hk] at h; cases h
    | some k =>
      rw [fields_value hk hv] at h
      cases ht : trimLeft behind with
      | nil => rw [ht] at h; cases h
      | cons c more =>
        obtain ⟨used, ws, rfl, hspells, hws⟩ := ih.before hv ht
        rw [ht] at h
        dsimp only at h
        by_cases hc : c = '}'
        · rw [if_pos hc] at h
          cases h
          exact ⟨used ++ (ws ++ [c]), by simp, hc ▸ .last hk hspells hws⟩
        · rw [if_neg hc] at h
          by_cases hcomma : c = ','
          · subst hcomma
            rw [if_pos rfl] at h
            split at h
            · next hm =>
              cases h
              obtain ⟨us, hus, rfl⟩ := Text.exists_blank_cons hm
              exact ⟨used ++ (ws ++ ',' :: (us ++ ['}'])), by simp, .comma hk hspells hws hus⟩
            · cases hn : Literal.value fuel (trimLeft more) with
              | error f => rw [hn] at h; cases h
              | ok r =>
                obtain ⟨next, beyond⟩ := r
                rw [hn] at h
                dsimp only at h
                split at h
                · next tail hm =>
                  obtain ⟨usedKey, us, rfl, hnext, hus⟩ := ih.before_trimLeft hn hm
                  obtain ⟨tail, rfl, hfields⟩ := ih.fields h
                  exact ⟨used ++ (ws ++ ',' :: (usedKey ++ (us ++ ':' :: tail))), by simp,
                    .more hk hspells hws hnext hus hfields⟩
                · cases h
          · rw [if_neg hcomma] at h
            cases h

theorem Sound.succ : Sound (fuel + 1) where
  value := ih.value_succ
  items := ih.items_succ
  itemsFrom := ih.itemsFrom_succ
  tuple := ih.tuple_succ
  braces := ih.braces_succ
  fields := ih.fields_succ

end

theorem sound (fuel : Nat) : Sound fuel := by
  induction fuel with
  | zero => exact sound_zero
  | succ fuel ih => exact ih.succ

end Literal

end PageScript
