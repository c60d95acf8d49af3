import Mathlib.Data.List.Forall2
import PageScript.Proofs.Literal.Integer

/-!
# Literals of scalars

`ScalarLiteral v cs` says that `cs` is the literal that is put down for the scalar `v`: the name of
a constant, an integer in decimal digits, or a text between quotes of either kind.  Between the
quotes the own quote, the backslash, line ends and tabs stand behind a backslash, and a character
that is no printable ASCII may stand as its code point.  Any other character stands for itself, so a
literal holds a comma exactly if it is the literal of a text with a comma (`comma_iff`).

The literal of a scalar is read as the scalar, unless it is an integer that does not fit into 64
bits without its sign (`read_iff`).
-/

namespace PageScript

namespace Literal

open Text (isBlank EndsInInk)

/-! ## Literals -/

/-- The characters that stand behind a backslash, with the signs that stand there for them. -/
def letterEscapes : List (Char × Char) := [('\\', '\\'), ('\n', 'n'), ('\r', 'r'), ('\t', 't')]

/-- The text is what is put between the quotes for the character. -/
inductive LiteralChar (quote : Char) : Char → List Char → Prop where
  | plain {c : Char} (hq : c ≠ quote) (hb : c ≠ '\\') : LiteralChar quote c [c]
  | escaped {c mark : Char} (h : (c, mark) ∈ letterEscapes) : LiteralChar quote c ['\\', mark]
  | quote : LiteralChar quote quote ['\\', quote]
  | coded {c mark : Char} {width : Nat} {digits : List Char} (hc : ¬ (' ' ≤ c ∧ c ≤ '~'))
      (hm : EscapeWidth mark width) (hl : digits.length = width) (hd : Digits 16 c.toNat digits) :
      LiteralChar quote c ('\\' :: mark :: digits)

/-- The text is the literal of the scalar. -/
inductive ScalarLiteral : Value → List Char → Prop where
  | none : ScalarLiteral .null "None".toList
  | yes : ScalarLiteral (.bool true) "True".toList
  | no : ScalarLiteral (.bool false) "False".toList
  | integer (n : Int) : ScalarLiteral (.int n) (intText n).toList
  | text {q : Char} {s : String} {parts : List (List Char)} (hq : isQuote q = true)
      (h : List.Forall₂ (LiteralChar q) s.toList parts) :
      ScalarLiteral (.text s) (q :: (parts.flatten ++ [q]))

/-! ## Texts -/

section

variable {quote c : Char} {cs s : List Char} {parts : List (List Char)}

theorem LiteralChar.read (hq : isQuote quote = true) (h : LiteralChar quote c cs)
    (done more : List Char) :
    string false quote .plain done (cs ++ more) = string false quote .plain (c :: done) more := by
  cases h with
  | plain hc hb => exact (RendersChar.raw hc hb).read hq done more
  | @escaped _ mark h =>
    have sign : escaped? mark = some c := by
      simp only [letterEscapes, List.mem_cons, Prod.mk.injEq, List.not_mem_nil, or_false] at h
      rcases h with ⟨rfl, rfl⟩ | ⟨rfl, rfl⟩ | ⟨rfl, rfl⟩ | ⟨rfl, rfl⟩ <;> rfl
    rw [List.cons_append, string_backslash hq]
    exact string_escaped sign done more
  | quote => exact RendersChar.quote.read hq done more
  | coded hc hm hl hd => exact (RendersChar.hex hm hl hd).read hq done more

theorem read_literalChars (hq : isQuote quote = true)
    (h : List.Forall₂ (LiteralChar quote) s parts) : ∀ done more : List Char,
    string false quote .plain done (parts.flatten ++ more)
      = string false quote .plain (s.reverse ++ done) more := by
  induction h with
  | nil =>
    intro done more
    rfl
  | cons hc h ih =>
    intro done more
    rw [List.flatten_cons, List.append_assoc, hc.read hq, ih, List.reverse_cons, List.append_assoc]
    rfl

theorem quoted_literalChars (hq : isQuote quote = true)
    (h : List.Forall₂ (LiteralChar quote) s parts) :
    Quoted false quote s (parts.flatten ++ [quote]) := by
  rw [Quoted, read_literalChars hq h, List.append_nil, string, if_pos rfl, List.reverse_reverse]

/-- Characters put down one after the other between quotes are the literal of their text. -/
theorem lexeme_literalChars {text : String} (hq : isQuote quote = true)
    (h : List.Forall₂ (LiteralChar quote) text.toList parts) :
    Lexeme (.text text) (quote :: (parts.flatten ++ [quote])) := by
  have lexeme := Lexeme.strings (.one hq (quoted_literalChars hq h))
  rwa [String.ofList_toList] at lexeme

/-- Only a comma is put down with a comma. -/
theorem LiteralChar.comma_iff (hq : isQuote quote = true) (h : LiteralChar quote c cs) :
    ',' ∈ cs ↔ c = ',' := by
  cases h with
  | plain => simp [eq_comm]
  | escaped h =>
    simp only [letterEscapes, List.mem_cons, Prod.mk.injEq, List.not_mem_nil, or_false] at h
    rcases h with ⟨rfl, rfl⟩ | ⟨rfl, rfl⟩ | ⟨rfl, rfl⟩ | ⟨rfl, rfl⟩ <;> decide
  | quote =>
    have cases : quote = '\'' ∨ quote = '"' := by simpa [isQuote] using hq
    rcases cases with rfl | rfl <;> decide
  | coded hc hm hl hd =>
    have digits := hd.forall_mem (p := (· ≠ ',')) (by decide +kernel)
    have other : c ≠ ',' := by
      rintro rfl
      exact hc (by decide)
    refine iff_of_false (fun hmem => ?_) other
    rcases List.mem_cons.mp hmem with hback | hmem
    · cases hback
    · rcases List.mem_cons.mp hmem with rfl | hmem
      · cases hm
      · exact digits ',' hmem rfl

theorem comma_literalChars (hq : isQuote quote = true)
    (h : List.Forall₂ (LiteralChar quote) s parts) : ',' ∈ parts.flatten ↔ ',' ∈ s := by
  induction h with
  | nil => exact Iff.rfl
  | cons hc h ih =>
    rw [List.flatten_cons, List.mem_append, List.mem_cons, hc.comma_iff hq, ih, eq_comm]

end

/-! ## Integers -/

theorem unsigned_of_digits {n : Nat} {cs : List Char} (h : Digits 10 n cs) : Unsigned n cs := by
  cases cs with
  | nil => exact absurd rfl h.ne_nil
  | cons c cs =>
    have hc := (digit_facts (h.isDigit c List.mem_cons_self)).1
    exact .decimal hc (by rwa [h.filter_underscores])

/-- The text of an integer spells it. -/
theorem spellsInteger_intText (n : Int) : SpellsInteger n (intText n).toList := by
  cases n with
  | ofNat k =>
    rw [intText, Nat.toList_repr]
    exact .unsigned (unsigned_of_digits (Reading.decimal_toDigits k))
  | negSucc k =>
    rw [intText, String.toList_append, Nat.toList_repr]
    exact @SpellsInteger.signed (k + 1) '-' [] _ (.inl rfl) Text.blank_nil
      (unsigned_of_digits (Reading.decimal_toDigits (k + 1)))

/-- The text of an integer is digits, perhaps with a minus sign. -/
theorem mem_intText {n : Int} {c : Char} (h : c ∈ (intText n).toList) :
    Reading.isDigit c = true ∨ c = '-' := by
  cases n with
  | ofNat k =>
    rw [intText, Nat.toList_repr] at h
    exact .inl ((Reading.decimal_toDigits k).isDigit c h)
  | negSucc k =>
    rw [intText, String.toList_append, Nat.toList_repr] at h
    rcases List.mem_append.mp h with h | h
    · exact .inr (List.mem_singleton.mp h)
    · exact .inl ((Reading.decimal_toDigits (k + 1)).isDigit c h)

/-! ## What a literal looks like -/

namespace ScalarLiteral

variable {v : Value} {cs : List Char}

theorem head (h : ScalarLiteral v cs) : ∃ c tail, cs = c :: tail ∧ startsLexeme c = true := by
  cases h with
  | none => exact ⟨_, _, rfl, by decide +kernel⟩
  | yes => exact ⟨_, _, rfl, by decide +kernel⟩
  | no => exact ⟨_, _, rfl, by decide +kernel⟩
  | integer n => exact (spellsInteger_intText n).head
  | text hq h => exact ⟨_, _, rfl, by simp [startsLexeme, hq]⟩

theorem ends (h : ScalarLiteral v cs) : EndsInInk cs := by
  cases h with
  | none => exact ends_of_plain Constant.none.plain.1 Constant.none.plain.2
  | yes => exact ends_of_plain Constant.yes.plain.1 Constant.yes.plain.2
  | no => exact ends_of_plain Constant.no.plain.1 Constant.no.plain.2
  | integer n =>
    obtain ⟨c, tail, heq, -⟩ := (spellsInteger_intText n).head
    refine ends_of_plain (by simp [heq]) fun d hd hmark => ?_
    have facts := mark_facts d hmark
    rcases mem_intText hd with hdigit | rfl
    · have starts : startsNumber d = true := by simp [startsNumber, hdigit]
      rw [facts.2.2.2.1] at starts
      cases starts
    · exact facts.2.2.2.2.1 rfl
  | @text q s parts hq h => exact ⟨q :: parts.flatten, q, rfl, isBlank_of_isQuote hq⟩

/-- A literal holds a comma exactly if it is that of a text with a comma. -/
theorem comma_iff (h : ScalarLiteral v cs) : ',' ∈ cs ↔ ∃ s, v = .text s ∧ ',' ∈ s.toList := by
  cases h with
  | none => simp
  | yes => simp
  | no => simp
  | integer n =>
    refine iff_of_false (fun hmem => ?_) (by rintro ⟨s, ⟨⟩, -⟩)
    rcases mem_intText hmem with hdigit | hsign
    · cases hdigit
    · cases hsign
  | @text q s parts hq h =>
    have quotes : q ≠ ',' := by
      rintro rfl
      cases hq
    simp [comma_literalChars hq h, quotes.symm]

/-- A literal is read as its scalar, unless it is an integer that does not fit without its sign. -/
theorem read_iff (h : ScalarLiteral v cs) :
    read cs = .ok v ↔ ∀ n, v = .int n → (n.natAbs : Int) ≤ Reading.int64Max := by
  cases h with
  | none => exact iff_of_true (Spells.lexeme (.constant .none)).whole.read nofun
  | yes => exact iff_of_true (Spells.lexeme (.constant .yes)).whole.read nofun
  | no => exact iff_of_true (Spells.lexeme (.constant .no)).whole.read nofun
  | integer n =>
    rw [(spellsInteger_intText n).read_iff]
    constructor
    · rintro hn _ ⟨⟩
      exact hn
    · intro hn
      exact hn n rfl
  | text hq h => exact iff_of_true (Spells.lexeme (lexeme_literalChars hq h)).whole.read nofun

/-- A raw argument that is the literal of a scalar is taken for the scalar, with the same
exception. -/
theorem coerce_iff (h : ScalarLiteral v cs) :
    coerce cs = v ↔ ∀ n, v = .int n → (n.natAbs : Int) ≤ Reading.int64Max := by
  have trimmed : read (Text.trim cs) = .ok v ↔ read cs = .ok v := by
    rw [read_eq_ok_iff, read_eq_ok_iff, spellsWhole_trim_iff]
  rw [← h.read_iff, ← trimmed, coerce]
  cases hread : read (Text.trim cs) with
  | ok w => simp
  | error f =>
    refine iff_of_false (fun htext => ?_) nofun
    have reads := trimmed.mpr (h.read_iff.mpr (by rintro n rfl; cases htext))
    rw [hread] at reads
    cases reads

end ScalarLiteral

/-! ## Rows of scalars -/

theorem coerce_blank (cs : List Char) : coerce (' ' :: cs) = coerce cs := by
  have same : Text.trim (' ' :: cs) = Text.trim cs := by
    rw [Text.trim, Text.trimLeft_cons_blank rfl, ← Text.trim]
  rw [coerce, coerce, same]

variable {vs : List Value} {literals : List (List Char)}

/-- The literals are taken for the scalars if the integers among them fit without their signs. -/
theorem map_coerce_iff (h : List.Forall₂ ScalarLiteral vs literals) :
    literals.map coerce = vs ↔ ∀ n : Int, .int n ∈ vs → (n.natAbs : Int) ≤ Reading.int64Max := by
  induction h with
  | nil => simp
  | cons hv _ ih =>
    rw [List.map_cons, List.cons.injEq, hv.coerce_iff, ih]
    simp only [List.mem_cons, or_imp, forall_and, eq_comm]

/-- The literals are free of commas if the texts among the scalars are. -/
theorem no_comma_iff (h : List.Forall₂ ScalarLiteral vs literals) :
    (∀ cs ∈ literals, ',' ∉ cs) ↔ ∀ s, .text s ∈ vs → ',' ∉ s.toList := by
  induction h with
  | nil => simp
  | cons hv _ ih =>
    rw [List.forall_mem_cons, hv.comma_iff, ih]
    simp only [not_exists, not_and, List.mem_cons, or_imp, forall_and, eq_comm]

end Literal

end PageScript
