import PageScript.Document.Json
import PageScript.Proofs.Text.Blank
import PageScript.Proofs.Text.Replacing

/-!
# Texts as string literals

A text that is written as a string literal is read back as it was, whatever follows the literal
(`Quoted.read_encode`), so the literal is decoded to the text (`Quoted.decode?_literal`).

No text can leave its literal: the first quote that is not escaped is the closing one
(`Quoted.sealed`).

Between the quotes a character stands for itself or is escaped, and an escape has signs, digits and
small letters only.  So a word of capital letters occurs in a literal exactly if it occurs in the
text (`Quoted.contains_literal`).
-/

namespace PageScript

namespace Quoted

/-! ## Reading literals back -/

section

variable {c : Char} {n d : Nat} (done rest : List Char)

/-- A digit of a code point that is not the last one. -/
theorem read_hex_step (missing : Nat) (high : Option Nat) (h : Reading.digitValue c = some d) :
    read (.hex (missing + 2) n high) done (c :: rest)
      = read (.hex (missing + 1) (n * 16 + d) high) done rest := by
  simp [read, h]

/-- The last digit of a code point that is a control character. -/
theorem read_hex_last (h : Reading.digitValue c = some d) (hn : n * 16 + d < 0x20) :
    read (.hex 1 n none) done (c :: rest) = read .plain (Char.ofNat (n * 16 + d) :: done) rest := by
  have low : ¬ (0xD800 ≤ n * 16 + d ∧ n * 16 + d ≤ 0xDBFF) := by omega
  have high : ¬ (0xDC00 ≤ n * 16 + d ∧ n * 16 + d ≤ 0xDFFF) := by omega
  rw [read]
  simp only [h, if_neg low, if_neg high, ne_eq, not_true_eq_false, if_false]

/-- A control character as its code point. -/
theorem read_code (h : c.toNat < 0x20) :
    read .escape done ('u' :: '0' :: '0' :: (hexByte c.toNat ++ rest))
      = read .plain (c :: done) rest := by
  have table : ∀ n < 0x20, Reading.digitValue (Nat.digitChar (n / 16)) = some (n / 16) ∧
      Reading.digitValue (Nat.digitChar (n % 16)) = some (n % 16) := by decide +kernel
  obtain ⟨first, second⟩ := table c.toNat h
  have zero : Reading.digitValue '0' = some 0 := by decide
  have whole : (0 + c.toNat / 16) * 16 + c.toNat % 16 = c.toNat := by omega
  show read (.hex 4 0 none) done ('0' :: '0' :: Nat.digitChar (c.toNat / 16) ::
    Nat.digitChar (c.toNat % 16) :: rest) = _
  rw [read_hex_step _ _ 2 none zero, read_hex_step _ _ 1 none zero, read_hex_step _ _ 0 none first,
    Nat.zero_mul, Nat.zero_add, read_hex_last _ _ second (by omega), whole, Char.ofNat_toNat]

end

theorem read_encodeChar (c : Char) (done rest : List Char) :
    read .plain done (encodeChar c ++ rest) = read .plain (c :: done) rest := by
  have escapes : ∀ e ∈ ['"', '\\', '\x08', '\t', '\n', '\x0c', '\r'],
      read .plain done (encodeChar e ++ rest) = read .plain (e :: done) rest := by
    simp [encodeChar, read, escaped?]
  by_cases listed : c ∈ ['"', '\\', '\x08', '\t', '\n', '\x0c', '\r']
  · exact escapes c listed
  · simp only [List.mem_cons, List.not_mem_nil, or_false, not_or] at listed
    obtain ⟨hquote, hslash, hb, ht, hn, hf, hr⟩ := listed
    by_cases low : c.toNat < 0x20
    · -- a control character without a letter of its own
      simp only [encodeChar, if_neg hquote, if_neg hslash, if_pos low, if_neg hb, if_neg ht,
        if_neg hn, if_neg hf, if_neg hr]
      exact read_code done rest low
    · simp only [encodeChar, if_neg hquote, if_neg hslash, if_neg low, List.singleton_append, read]

/-- What stands between the quotes is read back, whatever follows the closing one. -/
theorem read_encode (cs done rest : List Char) :
    read .plain done (encode cs ++ '"' :: rest) = some (done.reverse ++ cs, rest) := by
  induction cs generalizing done with
  | nil => simp [encode, read]
  | cons c cs ih =>
    rw [encode, List.flatMap_cons, List.append_assoc, read_encodeChar, ← encode, ih,
      List.reverse_cons, List.append_assoc, List.singleton_append]

/-- The text of a string literal; `none` if it is none, or if there is something behind it. -/
def decode? (s : String) : Option String :=
  match s.toList with
  | '"' :: cs =>
    match read .plain [] cs with
    | some (text, []) => some (String.ofList text)
    | _ => none
  | _ => none

theorem decode?_literal (s : String) : decode? (literal s) = some s := by
  have whole : (literal s).toList = '"' :: (encode s.toList ++ '"' :: []) := String.toList_ofList
  simp only [decode?, whole, read_encode, List.reverse_nil, List.nil_append, String.ofList_toList]

example : decode? "\"a\\\"b\\u000" = none := by decide +kernel

/-! ## Where literals end -/

/-- What stands behind the first quote that no backslash escapes.  The flag tells that the character
in front was a backslash that escapes. -/
def behindQuote : Bool → List Char → Option (List Char)
  | _, [] => none
  | true, _ :: rest => behindQuote false rest
  | false, c :: rest => if c = '"' then some rest else behindQuote (c = '\\') rest

/-- How a character stands between the quotes: as itself, or behind a backslash as a sign or as the
digits of a control character. -/
theorem encodeChar_shapes (c : Char) :
    (encodeChar c = [c] ∧ c ≠ '"' ∧ c ≠ '\\' ∧ 0x20 ≤ c.toNat) ∨
      (∃ e ∈ ['"', '\\', 'b', 't', 'n', 'f', 'r'], encodeChar c = ['\\', e]) ∨
      (c.toNat < 0x20 ∧ encodeChar c = '\\' :: 'u' :: '0' :: '0' :: hexByte c.toNat) := by
  by_cases listed : c ∈ ['"', '\\', '\x08', '\t', '\n', '\x0c', '\r']
  · have table : ∀ d ∈ ['"', '\\', '\x08', '\t', '\n', '\x0c', '\r'],
        ∃ e ∈ ['"', '\\', 'b', 't', 'n', 'f', 'r'], encodeChar d = ['\\', e] := by
      simp [encodeChar]
    exact .inr (.inl (table c listed))
  · simp only [List.mem_cons, List.not_mem_nil, or_false, not_or] at listed
    obtain ⟨hquote, hslash, hb, ht, hn, hf, hr⟩ := listed
    by_cases low : c.toNat < 0x20
    · refine .inr (.inr ⟨low, ?_⟩)
      simp only [encodeChar, if_neg hquote, if_neg hslash, if_pos low, if_neg hb, if_neg ht,
        if_neg hn, if_neg hf, if_neg hr]
    · refine .inl ⟨?_, hquote, hslash, Nat.not_lt.mp low⟩
      simp only [encodeChar, if_neg hquote, if_neg hslash, if_neg low]

/-- The digits of a control character are no quotes, no backslashes and no control characters. -/
theorem hexByte_plain {n : Nat} (h : n < 0x20) :
    ∀ e ∈ hexByte n, e ≠ '"' ∧ e ≠ '\\' ∧ 0x20 ≤ e.toNat := by
  have table : ∀ n < 0x20,
      ((hexByte n).all fun e => e ≠ '"' ∧ e ≠ '\\' ∧ 0x20 ≤ e.toNat) = true := by decide +kernel
  exact Text.forall_of_all (table n h)

theorem behindQuote_encodeChar (c : Char) (rest : List Char) :
    behindQuote false (encodeChar c ++ rest) = behindQuote false rest := by
  have pass {e : Char} (hquote : e ≠ '"') (hslash : e ≠ '\\') (rest : List Char) :
      behindQuote false (e :: rest) = behindQuote false rest := by
    simp [behindQuote, hquote, hslash]
  rcases encodeChar_shapes c with ⟨heq, hquote, hslash, -⟩ | ⟨e, -, heq⟩ | ⟨low, heq⟩
  · rw [heq]
    exact pass hquote hslash rest
  · rw [heq]
    rfl
  · obtain ⟨first, second, hbytes⟩ : ∃ first second, hexByte c.toNat = [first, second] := ⟨_, _, rfl⟩
    have digits := hexByte_plain low
    rw [hbytes] at digits
    have hfirst := digits first (by simp)
    have hsecond := digits second (by simp)
    rw [heq, hbytes]
    calc behindQuote false ('\\' :: 'u' :: '0' :: '0' :: first :: second :: rest)
        = behindQuote false (first :: second :: rest) := rfl
      _ = behindQuote false (second :: rest) := pass hfirst.1 hfirst.2.1 _
      _ = behindQuote false rest := pass hsecond.1 hsecond.2.1 _

/-- The first quote that is not escaped is the closing one. -/
theorem behindQuote_encode (cs rest : List Char) :
    behindQuote false (encode cs ++ '"' :: rest) = some rest := by
  induction cs with
  | nil => rfl
  | cons c cs ih =>
    rw [encode, List.flatMap_cons, List.append_assoc, behindQuote_encodeChar, ← encode, ih]

theorem encodeChar_visible (c : Char) : ∀ e ∈ encodeChar c, 0x20 ≤ e.toNat := by
  intro e he
  rcases encodeChar_shapes c with ⟨heq, -, -, visible⟩ | ⟨d, hd, heq⟩ | ⟨low, heq⟩
  · rw [heq, List.mem_singleton] at he
    rwa [he]
  · have sign : ∀ d ∈ ['"', '\\', 'b', 't', 'n', 'f', 'r'], 0x20 ≤ d.toNat :=
      Text.forall_of_all (by decide +kernel)
    rw [heq, List.mem_cons, List.mem_singleton] at he
    rcases he with rfl | rfl
    · decide
    · exact sign e hd
  · rw [heq] at he
    have front : ∀ e ∈ ['\\', 'u', '0', '0'], 0x20 ≤ e.toNat :=
      Text.forall_of_all (by decide +kernel)
    rcases List.mem_append.mp (show e ∈ ['\\', 'u', '0', '0'] ++ hexByte c.toNat from he) with he | he
    · exact front e he
    · exact (hexByte_plain low e he).2.2

/-- The literal of a text holds it in: it begins with a quote, no control character stands in it, the
first quote that closes it is its last character, whatever follows, and it means the text. -/
structure Sealed (s : String) : Prop where
  quoted : (literal s).toList = '"' :: (encode s.toList ++ ['"'])
  visible : ∀ c ∈ (literal s).toList, 0x20 ≤ c.toNat
  closed : ∀ rest, behindQuote false (encode s.toList ++ '"' :: rest) = some rest
  decoded : decode? (literal s) = some s

theorem sealed (s : String) : Sealed s where
  quoted := String.toList_ofList
  visible c hc := by
    have quote : 0x20 ≤ '"'.toNat := by decide
    rw [literal, String.toList_ofList, List.cons_append, List.mem_cons, List.mem_append,
      List.mem_singleton] at hc
    rcases hc with rfl | hc | rfl
    · exact quote
    · obtain ⟨d, -, hd⟩ := List.mem_flatMap.mp hc
      exact encodeChar_visible d c hd
    · exact quote
  closed := behindQuote_encode s.toList
  decoded := decode?_literal s

/-! ## Searching literals -/

/-- A character stands for itself, or neither it nor what stands for it is a capital. -/
theorem encodeChar_cases (c : Char) :
    encodeChar c = [c] ∨
      (c.isUpper = false ∧ encodeChar c ≠ [] ∧ ∀ e ∈ encodeChar c, e.isUpper = false) := by
  suffices h : encodeChar c = [c] ∨ (c.isUpper = false ∧ encodeChar c ≠ [] ∧
      (encodeChar c).any Char.isUpper = false) from
    h.imp_right fun ⟨hc, hne, apart⟩ =>
      ⟨hc, hne, fun e he => Bool.eq_false_iff.mpr (List.any_eq_false.mp apart e he)⟩
  have controls : ∀ n < 0x20, (Char.ofNat n).isUpper = false ∧ encodeChar (Char.ofNat n) ≠ [] ∧
      (encodeChar (Char.ofNat n)).any Char.isUpper = false := by decide +kernel
  by_cases hquote : c = '"'
  · subst hquote
    exact .inr (by decide)
  by_cases hslash : c = '\\'
  · subst hslash
    exact .inr (by decide)
  by_cases low : c.toNat < 0x20
  · have control := controls c.toNat low
    rw [Char.ofNat_toNat] at control
    exact .inr control
  · exact .inl (by simp only [encodeChar, if_neg hquote, if_neg hslash, if_neg low])

theorem literal_eq (s : String) : literal s
    = String.singleton '"' ++ String.ofList (encode s.toList) ++ String.singleton '"' := by
  rw [literal, ← String.toList_inj]
  simp

section

variable {word : List Char}

theorem ne_of_isUpper {c e : Char} (hc : c.isUpper = true) (he : e.isUpper = false) :
    c ≠ e := by
  rintro rfl
  rw [hc] at he
  contradiction

theorem prefix_encode_iff {cs : List Char} (h : ∀ c ∈ word, c.isUpper = true) :
    word <+: encode cs ↔ word <+: cs := by
  induction cs generalizing word with
  | nil => rfl
  | cons c cs ih =>
    cases word with
    | nil => simp
    | cons p word =>
      have hp := h p List.mem_cons_self
      rw [encode, List.flatMap_cons, ← encode, List.cons_prefix_cons]
      rcases encodeChar_cases c with itself | ⟨hc, hne, apart⟩
      · rw [itself, List.singleton_append, List.cons_prefix_cons,
          ih fun d hd => h d (List.mem_cons_of_mem p hd)]
      · obtain ⟨e, escape, he⟩ := List.exists_cons_of_ne_nil hne
        rw [he] at apart ⊢
        rw [List.cons_append, List.cons_prefix_cons]
        exact iff_of_false (fun hh => ne_of_isUpper hp (apart e List.mem_cons_self) hh.1)
          (fun hh => ne_of_isUpper hp hc hh.1)

theorem infix_encode_iff {cs : List Char} (h : ∀ c ∈ word, c.isUpper = true) :
    word <:+: encode cs ↔ word <:+: cs := by
  induction cs with
  | nil => rfl
  | cons c cs ih =>
    have outside : ∀ {e : Char}, e.isUpper = false → e ∉ word :=
      fun he hmem => ne_of_isUpper (h _ hmem) he rfl
    rcases encodeChar_cases c with itself | ⟨hc, -, apart⟩
    · have first : word <+: c :: encode cs ↔ word <+: c :: cs := by
        have whole : word <+: encode (c :: cs) ↔ word <+: c :: cs := prefix_encode_iff h
        rwa [encode, List.flatMap_cons, itself, List.singleton_append, ← encode] at whole
      rw [encode, List.flatMap_cons, itself, List.singleton_append, ← encode, List.infix_cons_iff,
        List.infix_cons_iff, first, ih]
    · have single : word <:+: [c] ++ cs ↔ word <:+: cs :=
        Text.infix_behind (List.forall_mem_singleton.mpr (outside hc))
      rw [encode, List.flatMap_cons, ← encode, Text.infix_behind fun e he => outside (apart e he), ih,
        ← single, List.singleton_append]

/-- A word of capital letters occurs in a literal exactly if it occurs in the text. -/
theorem contains_literal {s word : String} (h : word.toList.all Char.isUpper = true)
    (hword : word.toList ≠ []) : Text.contains (literal s) word = Text.contains s word := by
  have capitals : ∀ c ∈ word.toList, c.isUpper = true := List.all_eq_true.mp h
  have whole : (literal s).toList = [] ++ '"' :: (encode s.toList ++ '"' :: []) :=
    String.toList_ofList
  have outside : '"' ∉ word.toList := fun hmem => absurd (capitals _ hmem) (by decide)
  have empty : ¬ word.toList <:+: [] := mt List.infix_nil.mp hword
  rw [Bool.eq_iff_iff, Text.contains_iff, Text.contains_iff, whole, Text.infix_around outside hword,
    or_iff_right empty, Text.infix_around outside hword, or_iff_left empty,
    infix_encode_iff capitals]

end

end Quoted

end PageScript
