import PageScript.Proofs.Literal.Whole

/-!
# Round trips

`Renders v cs` says that the text `cs` is a way to write the value `v`, told from the side of the
writer: how to write digits, characters, lists and dicts, and where blanks may stand.  It knows
nothing of the readers.

Every way to write a value is a literal for it (`Renders.spells`), so the parser gives the value
back (`parse_of_renders`).
-/

namespace PageScript

namespace Literal

open Text (Blank isBlank)

/-! ## Digits -/

/-- The text is a row of digits of the number, in small or in capital letters, perhaps with zeros in
front. -/
inductive Digits (base : Nat) : Nat → List Char → Prop where
  | one {d : Nat} {c : Char} (hd : d < base) (hc : c = Nat.digitChar d ∨ c = (Nat.digitChar d).toUpper) :
      Digits base d [c]
  | more {n d : Nat} {c : Char} {cs : List Char} (h : Digits base n cs) (hd : d < base)
      (hc : c = Nat.digitChar d ∨ c = (Nat.digitChar d).toUpper) :
      Digits base (n * base + d) (cs ++ [c])

theorem digitValue_of_digit {d : Nat} {c : Char} (hd : d < 16)
    (hc : c = Nat.digitChar d ∨ c = (Nat.digitChar d).toUpper) :
    Reading.digitValue c = some d := by
  have table : ∀ n < 16, Reading.digitValue (Nat.digitChar n) = some n ∧
      Reading.digitValue (Nat.digitChar n).toUpper = some n := by decide +kernel
  rcases hc with rfl | rfl
  · exact (table d hd).1
  · exact (table d hd).2

theorem foldDigits_append (base : Nat) (cs ds : List Char) : ∀ n : Nat,
    Reading.foldDigits base n (cs ++ ds)
      = (Reading.foldDigits base n cs).bind fun m => Reading.foldDigits base m ds := by
  induction cs with
  | nil =>
    intro n
    rfl
  | cons c cs ih =>
    intro n
    rw [List.cons_append, Reading.foldDigits, Reading.foldDigits]
    cases Reading.digitValue c with
    | none => rfl
    | some d =>
      dsimp only
      by_cases hd : d < base
      · rw [if_pos hd, if_pos hd, ih]
      · rw [if_neg hd, if_neg hd]
        rfl

theorem foldDigits_digit {base d : Nat} {c : Char} (hd : d < base)
    (hc : Reading.digitValue c = some d) (n : Nat) :
    Reading.foldDigits base n [c] = some (n * base + d) := by
  rw [Reading.foldDigits, hc]
  exact if_pos hd

/-- Reading the digits gives the number. -/
theorem Digits.foldDigits {base n : Nat} {cs : List Char} (h : Digits base n cs) (hb : base ≤ 16) :
    Reading.foldDigits base 0 cs = some n := by
  induction h with
  | one hd hc =>
    rw [foldDigits_digit hd (digitValue_of_digit (by omega) hc), Nat.zero_mul, Nat.zero_add]
  | more h hd hc ih =>
    rw [foldDigits_append, ih]
    exact foldDigits_digit hd (digitValue_of_digit (by omega) hc) _

theorem Digits.ne_nil {base n : Nat} {cs : List Char} (h : Digits base n cs) : cs ≠ [] := by
  cases h with
  | one hd hc => exact List.cons_ne_nil _ _
  | more h hd hc => exact List.append_ne_nil_of_right_ne_nil _ (List.cons_ne_nil _ _)

/-- What holds of every digit of the base holds of every character. -/
theorem Digits.forall_mem {base n : Nat} {cs : List Char} {p : Char → Prop} (h : Digits base n cs)
    (one : ∀ d < base, p (Nat.digitChar d) ∧ p (Nat.digitChar d).toUpper) : ∀ c ∈ cs, p c := by
  have digit : ∀ {d : Nat} {c : Char}, d < base →
      c = Nat.digitChar d ∨ c = (Nat.digitChar d).toUpper → p c := by
    intro d c hd hc
    rcases hc with rfl | rfl
    · exact (one d hd).1
    · exact (one d hd).2
  induction h with
  | one hd hc =>
    intro c hmem
    rw [List.mem_singleton.mp hmem]
    exact digit hd hc
  | more h hd hc ih =>
    intro c hmem
    rcases List.mem_append.mp hmem with hmem | hmem
    · exact ih c hmem
    · rw [List.mem_singleton.mp hmem]
      exact digit hd hc

theorem Digits.isDigit {n : Nat} {cs : List Char} (h : Digits 10 n cs) :
    ∀ c ∈ cs, Reading.isDigit c = true :=
  h.forall_mem (by decide +kernel)

/-! ## Integers -/

/-- Digits and underscores are a decimal number without a point or an exponent. -/
theorem spanNumber_digits {cs : List Char} (h : ∀ c ∈ cs, Reading.isDigit c = true ∨ c = '_') :
    spanNumber false false cs = (cs, [], false) := by
  induction cs with
  | nil => rfl
  | cons c cs ih =>
    have hc : (Reading.isDigit c || c == '_') = true := by simpa using h c List.mem_cons_self
    simp only [spanNumber, hc, if_true]
    rw [ih fun d hd => h d (List.mem_cons_of_mem c hd)]

/-- What digits are not. -/
theorem digit_facts {c : Char} (h : Reading.isDigit c = true) :
    c ≠ '_' ∧ c ≠ '+' ∧ c ≠ '-' ∧ c ≠ '.' ∧ c ≠ 'x' ∧ c ≠ 'X' := by
  refine ⟨?_, ?_, ?_, ?_, ?_, ?_⟩ <;> (rintro rfl; exact absurd h (by decide))

/-- Decimal digits are read as their number if it is in the range. -/
theorem Digits.intInBase? {n : Nat} {cs : List Char} {lo hi : Int} (h : Digits 10 n cs)
    (hlo : lo ≤ n) :
    Reading.intInBase? 10 lo hi cs = if (n : Int) ≤ hi then some (n : Int) else none := by
  cases cs with
  | nil => exact absurd rfl h.ne_nil
  | cons c cs =>
    have hc := digit_facts (h.isDigit c List.mem_cons_self)
    have natural : Reading.natInBase? 10 (c :: cs) = some n := h.foldDigits (by decide)
    rw [Reading.intInBase?]
    · simp [natural, hlo]
    · rintro rest ⟨⟩
      exact absurd rfl hc.2.1
    · rintro rest ⟨⟩
      exact absurd rfl hc.2.2.1

/-- Decimal digits are no hexadecimal number. -/
theorem not_hexMarked {cs : List Char} (h : ∀ c ∈ cs, Reading.isDigit c = true ∨ c = '_') :
    ¬ HexMarked cs := by
  rintro ⟨x, rest, hx, rfl⟩
  rcases h x (by simp) with hd | rfl
  · have facts := digit_facts hd
    rcases hx with rfl | rfl
    · exact facts.2.2.2.2.1 rfl
    · exact facts.2.2.2.2.2 rfl
  · rcases hx with hx | hx <;> cases hx

/-- Among decimal digits there is no underscore. -/
theorem Digits.filter_underscores {n : Nat} {cs : List Char} (h : Digits 10 n cs) :
    cs.filter (· != '_') = cs := by
  refine List.filter_eq_self.mpr fun c hc => ?_
  simpa using (digit_facts (h.isDigit c hc)).1

/-- A row of decimal digits up to the greatest 64-bit integer is an integer. -/
theorem numeral_of_digits {n : Nat} {cs : List Char} (h : Digits 10 n cs)
    (hn : (n : Int) ≤ Reading.int64Max) (negative : Bool) :
    Numeral negative (.int (if negative then -(n : Int) else n)) cs := by
  have digits : ∀ c ∈ cs, Reading.isDigit c = true ∨ c = '_' := fun c hc => .inl (h.isDigit c hc)
  have value : Reading.int64? cs = some (n : Int) := by
    have low : Reading.int64Min ≤ 0 := by decide
    rw [Reading.int64?, h.intInBase? (by omega), if_pos hn]
  rw [Numeral, number_decimal (not_hexMarked digits), decimalNumber_eq_ok_iff]
  refine ⟨cs, false, spanNumber_digits digits, ?_⟩
  rw [h.filter_underscores, decimalValue?]
  simp only [Bool.false_eq_true, if_false, value]

/-! ## Strings -/

/-- How many digits a numeric escape has. -/
inductive EscapeWidth : Char → Nat → Prop where
  | two : EscapeWidth 'x' 2
  | four : EscapeWidth 'u' 4
  | eight : EscapeWidth 'U' 8

/-- The text is a way to write the character between the quotes. -/
inductive RendersChar (quote : Char) : Char → List Char → Prop where
  | raw {c : Char} (hq : c ≠ quote) (hb : c ≠ '\\') : RendersChar quote c [c]
  | backslash : RendersChar quote '\\' ['\\', '\\']
  | quote : RendersChar quote quote ['\\', quote]
  | hex {c mark : Char} {width : Nat} {digits : List Char} (hm : EscapeWidth mark width)
      (hl : digits.length = width) (hd : Digits 16 c.toNat digits) :
      RendersChar quote c ('\\' :: mark :: digits)

/-- The text is a way to write the characters between the quotes. -/
inductive RendersChars (quote : Char) : List Char → List Char → Prop where
  | nil : RendersChars quote [] []
  | cons {c : Char} {s front back : List Char} (hc : RendersChar quote c front)
      (h : RendersChars quote s back) : RendersChars quote (c :: s) (front ++ back)

theorem isScalar_toNat (c : Char) : isScalar c.toNat = true := by
  have valid : c.toNat < 0xD800 ∨ (0xDFFF < c.toNat ∧ c.toNat < 0x110000) := c.valid
  simpa [isScalar] using valid

/-- The reader of a string goes through the digits of a numeric escape. -/
theorem string_hex (raw : Bool) (quote : Char) {n : Nat} (hn : isScalar n = true) (done more : List Char) :
    ∀ (digits : List Char) (code : Nat), digits ≠ [] →
      Reading.foldDigits 16 code digits = some n →
      string raw quote (.hex digits.length code) done (digits ++ more)
        = string raw quote .plain (Char.ofNat n :: done) more
  | [], _, hne, _ => absurd rfl hne
  | c :: cs, code, _, h => by
    rw [Reading.foldDigits] at h
    cases hd : Reading.digitValue c with
    | none => rw [hd] at h; cases h
    | some d =>
      rw [hd] at h
      dsimp only at h
      split at h
      · rw [List.cons_append, string, hd]
        dsimp only
        cases cs with
        | nil =>
          cases h
          rw [if_neg (by simp), if_pos hn]
          rfl
        | cons b cs =>
          rw [if_pos (by simp)]
          exact string_hex raw quote hn done more (b :: cs) _ (List.cons_ne_nil _ _) h
      · cases h

theorem escaped?_quote {quote : Char} (hq : isQuote quote = true) : escaped? quote = some quote := by
  have cases : quote = '\'' ∨ quote = '"' := by simpa [isQuote] using hq
  rcases cases with rfl | rfl <;> rfl

theorem backslash_ne_quote {quote : Char} (hq : isQuote quote = true) : '\\' ≠ quote := by
  rintro rfl
  cases hq

theorem string_backslash {quote : Char} (hq : isQuote quote = true) (done more : List Char) :
    string false quote .plain done ('\\' :: more) = string false quote .escape done more := by
  rw [string, if_neg (backslash_ne_quote hq), if_pos rfl]

theorem string_escaped {quote c e : Char} (he : escaped? c = some e) (done more : List Char) :
    string false quote .escape done (c :: more) = string false quote .plain (e :: done) more := by
  rw [string, he]
  rfl

theorem string_mark {quote mark : Char} {width : Nat} (hm : EscapeWidth mark width)
    (done more : List Char) :
    string false quote .escape done (mark :: more) = string false quote (.hex width 0) done more := by
  cases hm <;> rfl

/-- However a character is written, the reader of strings takes it for that character. -/
theorem RendersChar.read {quote c : Char} {cs : List Char} (hq : isQuote quote = true)
    (h : RendersChar quote c cs) (done more : List Char) :
    string false quote .plain done (cs ++ more) = string false quote .plain (c :: done) more := by
  cases h with
  | raw hc hb => rw [List.singleton_append, string, if_neg hc, if_neg hb]
  | backslash =>
    rw [List.cons_append, string_backslash hq]
    exact string_escaped rfl done more
  | quote =>
    rw [List.cons_append, string_backslash hq]
    exact string_escaped (escaped?_quote hq) done more
  | @hex _ mark width digits hm hl hd =>
    rw [List.cons_append, string_backslash hq, List.cons_append, string_mark hm, ← hl,
      string_hex false quote (isScalar_toNat c) done more digits 0 hd.ne_nil
        (hd.foldDigits (Nat.le_refl 16)), Char.ofNat_toNat]

theorem RendersChars.read {quote : Char} {s cs : List Char} (hq : isQuote quote = true)
    (h : RendersChars quote s cs) : ∀ done more : List Char,
    string false quote .plain done (cs ++ more)
      = string false quote .plain (s.reverse ++ done) more := by
  induction h with
  | nil =>
    intro done more
    rfl
  | cons hc h ih =>
    intro done more
    rw [List.append_assoc, hc.read hq, ih, List.reverse_cons, List.append_assoc]
    rfl

theorem RendersChars.quoted {quote : Char} {s cs : List Char} (hq : isQuote quote = true)
    (h : RendersChars quote s cs) : Quoted false quote s (cs ++ [quote]) := by
  rw [Quoted, h.read hq, List.append_nil, string, if_pos rfl, List.reverse_reverse]

/-- The text is a way to write the text in quotes, perhaps with blanks in front. -/
inductive RendersText : String → List Char → Prop where
  | blank {b : Char} {s : String} {cs : List Char} (hb : isBlank b = true) (h : RendersText s cs) :
      RendersText s (b :: cs)
  | quoted {q : Char} {s : String} {cs : List Char} (hq : isQuote q = true)
      (h : RendersChars q s.toList cs) : RendersText s (q :: (cs ++ [q]))

theorem RendersText.spells {s : String} {cs : List Char} (h : RendersText s cs) :
    Spells (.text s) cs := by
  induction h with
  | blank hb _ ih => exact .blank hb ih
  | quoted hq h =>
    have lexeme := Lexeme.strings (.one hq (h.quoted hq))
    rw [String.ofList_toList] at lexeme
    exact .lexeme lexeme

/-! ## Values -/

mutual

/-- The text is a way to write the value, perhaps with blanks in front. -/
inductive Renders : Value → List Char → Prop where
  | blank {b : Char} {v : Value} {cs : List Char} (hb : isBlank b = true) (h : Renders v cs) :
      Renders v (b :: cs)
  | none : Renders .null "None".toList
  | yes : Renders (.bool true) "True".toList
  | no : Renders (.bool false) "False".toList
  | digits {n : Nat} {cs : List Char} (h : Digits 10 n cs) (hn : (n : Int) ≤ Reading.int64Max) :
      Renders (.int n) cs
  | signed {n : Nat} {sign : Char} {ws cs : List Char} (hsign : sign = '-' ∨ sign = '+')
      (hws : Blank ws) (h : Digits 10 n cs) (hn : (n : Int) ≤ Reading.int64Max) :
      Renders (.int (if sign = '-' then -(n : Int) else n)) (sign :: (ws ++ cs))
  | text {s : String} {cs : List Char} (h : RendersText s cs) : Renders (.text s) cs
  | list {vs : List Value} {cs : List Char} (h : RendersItems vs cs) :
      Renders (.list vs) ('[' :: cs)
  | empty {ws : List Char} (hws : Blank ws) : Renders (.object []) ('{' :: (ws ++ ['}']))
  | dict {fs : List (String × Value)} {cs : List Char} (h : RendersFields fs cs)
      (hkeys : (Value.names fs).Nodup) : Renders (.object fs) ('{' :: cs)

/-- The text is a way to write the items of a list and its closing bracket. -/
inductive RendersItems : List Value → List Char → Prop where
  | close {ws : List Char} (hws : Blank ws) : RendersItems [] (ws ++ [']'])
  | last {v : Value} {cs ws : List Char} (h : Renders v cs) (hws : Blank ws) :
      RendersItems [v] (cs ++ (ws ++ [']']))
  | more {v : Value} {vs : List Value} {cs ws rest : List Char} (h : Renders v cs) (hws : Blank ws)
      (hrest : RendersItems vs rest) : RendersItems (v :: vs) (cs ++ (ws ++ ',' :: rest))

/-- The text is a way to write the fields of a dict and its closing brace. -/
inductive RendersFields : List (String × Value) → List Char → Prop where
  | last {k : String} {v : Value} {ks us cs ws : List Char} (hk : RendersText k ks) (hus : Blank us)
      (h : Renders v cs) (hws : Blank ws) :
      RendersFields [(k, v)] (ks ++ (us ++ ':' :: (cs ++ (ws ++ ['}']))))
  | comma {k : String} {v : Value} {ks us cs ws vs : List Char} (hk : RendersText k ks)
      (hus : Blank us) (h : Renders v cs) (hws : Blank ws) (hvs : Blank vs) :
      RendersFields [(k, v)] (ks ++ (us ++ ':' :: (cs ++ (ws ++ ',' :: (vs ++ ['}'])))))
  | more {k : String} {v : Value} {fs : List (String × Value)} {ks us cs ws rest : List Char}
      (hk : RendersText k ks) (hus : Blank us) (h : Renders v cs) (hws : Blank ws)
      (hrest : RendersFields fs rest) :
      RendersFields ((k, v) :: fs) (ks ++ (us ++ ':' :: (cs ++ (ws ++ ',' :: rest))))

end

theorem lexeme_of_digits {n : Nat} {cs : List Char} (h : Digits 10 n cs)
    (hn : (n : Int) ≤ Reading.int64Max) : Lexeme (.int n) cs := by
  cases cs with
  | nil => exact absurd rfl h.ne_nil
  | cons c cs =>
    have hc : startsNumber c = true := by simp [startsNumber, h.isDigit c List.mem_cons_self]
    exact .number hc (numeral_of_digits h hn false)

theorem lexeme_of_signed {n : Nat} {sign : Char} {ws cs : List Char} (hsign : sign = '-' ∨ sign = '+')
    (hws : Blank ws) (h : Digits 10 n cs) (hn : (n : Int) ≤ Reading.int64Max) :
    Lexeme (.int (if sign = '-' then -(n : Int) else n)) (sign :: (ws ++ cs)) := by
  cases cs with
  | nil => exact absurd rfl h.ne_nil
  | cons c cs =>
    have hc : startsNumber c = true := by simp [startsNumber, h.isDigit c List.mem_cons_self]
    have numeral := numeral_of_digits h hn (sign = '-')
    simp only [decide_eq_true_eq] at numeral
    exact .signed hsign hws hc numeral

/-- The fields that the text writes are put behind those so far. -/
def FieldsSpell (fs : List (String × Value)) (cs : List Char) : Prop :=
  ∃ key ks us rest, cs = ks ++ (us ++ ':' :: rest) ∧ Spells key ks ∧ Blank us ∧
    ∀ done, (Value.names (done ++ fs)).Nodup → SpellsFields key done (done ++ fs) rest

mutual

/-- Every way to write a value is a literal for it. -/
theorem Renders.spells : ∀ {v : Value} {cs : List Char}, Renders v cs → Spells v cs
  | _, _, .blank hb h => .blank hb h.spells
  | _, _, .none => .lexeme (.constant .none)
  | _, _, .yes => .lexeme (.constant .yes)
  | _, _, .no => .lexeme (.constant .no)
  | _, _, .digits h hn => .lexeme (lexeme_of_digits h hn)
  | _, _, .signed hsign hws h hn => .lexeme (lexeme_of_signed hsign hws h hn)
  | _, _, .text h => h.spells
  | _, _, .list h => .list h.spells
  | _, _, .empty hws => .empty hws
  | _, _, .dict h hkeys => by
    obtain ⟨key, ks, us, rest, rfl, hk, hus, hfields⟩ := h.spells
    exact .dict hk hus (hfields [] hkeys)

theorem RendersItems.spells : ∀ {vs : List Value} {cs : List Char}, RendersItems vs cs →
    SpellsItems ']' vs cs
  | _, _, .close hws => .close hws
  | _, _, .last h hws => .last h.spells hws
  | _, _, .more h hws hrest => .more h.spells hws hrest.spells

theorem RendersFields.spells : ∀ {fs : List (String × Value)} {cs : List Char}, RendersFields fs cs →
    FieldsSpell fs cs
  | _, _, @RendersFields.last k v ks us cs ws hk hus h hws => by
    refine ⟨_, _, _, _, rfl, hk.spells, hus, fun done hkeys => ?_⟩
    rw [← Value.insertField_of_not_mem (Value.new_name hkeys)]
    exact .last rfl h.spells hws
  | _, _, @RendersFields.comma k v ks us cs ws vs hk hus h hws hvs => by
    refine ⟨_, _, _, _, rfl, hk.spells, hus, fun done hkeys => ?_⟩
    rw [← Value.insertField_of_not_mem (Value.new_name hkeys)]
    exact .comma rfl h.spells hws hvs
  | _, _, @RendersFields.more k v fs ks us cs ws rest hk hus h hws hrest => by
    obtain ⟨next, ns, ys, rest, rfl, hnext, hys, hfields⟩ := hrest.spells
    refine ⟨_, _, _, _, rfl, hk.spells, hus, fun done hkeys => ?_⟩
    have split : done ++ (k, v) :: fs = Value.insertField k v done ++ fs := by
      rw [Value.insertField_of_not_mem (Value.new_name hkeys), List.append_assoc]
      rfl
    rw [split] at hkeys ⊢
    exact .more rfl h.spells hws hnext hys (hfields _ hkeys)

end

/-- Every way to write a value, between blanks, is read as the value. -/
theorem parse_of_renders {v : Value} {cs ws : List Char} (h : Renders v cs) (hws : Blank ws) :
    parse (String.ofList (cs ++ ws)) = .ok v := by
  rw [parse_eq_ok_iff, String.toList_ofList]
  exact .single h.spells hws

/-- A list with a negative integer and a dict, with blanks, an escape and a comma at the end. -/
theorem parse_of_renders_nested :
    Renders (.list [.int (-7), .object [("k", .text "A")]]) "[-7, \x7b'k' : \"\\x41\"\x7d, ]".toList ∧
      parse (String.ofList ("[-7, \x7b'k' : \"\\x41\"\x7d, ]".toList ++ [])) =
        .ok (.list [.int (-7), .object [("k", .text "A")]]) := by
  have space : Blank [' '] := .cons rfl Text.blank_nil
  have seven : Renders (.int (-7)) "-7".toList :=
    @Renders.signed 7 '-' [] ['7'] (.inl rfl) Text.blank_nil (.one (by decide) (.inl rfl)) (by decide)
  have key : RendersText "k" "'k'".toList :=
    @RendersText.quoted '\'' "k" ['k'] rfl
      (.cons (.raw (by decide) (by decide)) .nil)
  have code : Digits 16 ('A').toNat ['4', '1'] :=
    @Digits.more 16 4 1 '1' ['4'] (.one (by decide) (.inl rfl)) (by decide) (.inl rfl)
  have letter : RendersText "A" "\"\\x41\"".toList :=
    @RendersText.quoted '"' "A" "\\x41".toList rfl
      (.cons (.hex .two rfl code) .nil)
  have dict : Renders (.object [("k", .text "A")]) "\x7b'k' : \"\\x41\"\x7d".toList :=
    .dict (@RendersFields.last "k" (.text "A") "'k'".toList [' '] " \"\\x41\"".toList [] key space
      (.blank rfl (.text letter)) Text.blank_nil) (by decide)
  have items : RendersItems [.int (-7), .object [("k", .text "A")]]
      "-7, \x7b'k' : \"\\x41\"\x7d, ]".toList :=
    @RendersItems.more _ _ "-7".toList [] " \x7b'k' : \"\\x41\"\x7d, ]".toList seven Text.blank_nil
      (@RendersItems.more _ _ " \x7b'k' : \"\\x41\"\x7d".toList [] " ]".toList (.blank rfl dict)
        Text.blank_nil (.close space))
  have whole := Renders.list items
  exact ⟨whole, parse_of_renders whole Text.blank_nil⟩

end Literal

end PageScript
