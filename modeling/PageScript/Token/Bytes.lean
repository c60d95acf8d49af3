import PageScript.Token

/-!
# Tokens in bytes

A text is kept as bytes, from one to four for a character.  Its first token can be found in them
without looking at characters at all: the marks of a token and the quotes are single bytes, and none
of them is part of a longer character.

`places?` gives the places between which the body stands, counted in bytes, and `cutBody?` cuts the
body out there.  That these places lie between characters is not looked at before the cut.
-/

namespace PageScript

/-- The text between two places, if both lie between characters. -/
def Text.cut? (text : String) (start stop : Nat) : Option String :=
  if h : String.Pos.Raw.IsValid text ⟨start⟩ ∧ String.Pos.Raw.IsValid text ⟨stop⟩ ∧ start ≤ stop then
    some (text.extract (text.pos ⟨start⟩ h.1) (text.pos ⟨stop⟩ h.2.1))
  else none

/-- The ends of a part of a text lie between characters. -/
theorem Text.isValid_ends (front part back : String) :
    String.Pos.Raw.IsValid (front ++ part ++ back) ⟨front.utf8ByteSize⟩ ∧
      String.Pos.Raw.IsValid (front ++ part ++ back) ⟨(front ++ part).utf8ByteSize⟩ :=
  ⟨String.Pos.Raw.isValid_iff_exists_append.mpr ⟨front, part ++ back, String.append_assoc, rfl⟩,
    String.Pos.Raw.isValid_iff_exists_append.mpr ⟨front ++ part, back, rfl, rfl⟩⟩

/-- A part of a text is cut out at its ends. -/
theorem Text.cut?_ends (front part back : String) :
    Text.cut? (front ++ part ++ back) front.utf8ByteSize (front ++ part).utf8ByteSize
      = some part := by
  obtain ⟨start, stop⟩ := Text.isValid_ends front part back
  have between : front.utf8ByteSize ≤ (front ++ part).utf8ByteSize := by
    rw [String.utf8ByteSize_append]
    exact Nat.le_add_right _ _
  rw [Text.cut?, dif_pos ⟨start, stop, between⟩, Option.some.injEq, ← String.toByteArray_inj,
    String.toByteArray_extract, String.offset_pos, String.offset_pos, String.append_assoc]
  show (front.toByteArray ++ (part.toByteArray ++ back.toByteArray)).extract
    front.toByteArray.size (front.toByteArray ++ part.toByteArray).size = part.toByteArray
  rw [ByteArray.size_append]
  exact (ByteArray.extract_append_size_add (i := 0)).trans (ByteArray.extract_append_eq_left rfl)

namespace Token

/-- The bytes of the marks: the parentheses and the quotes. -/
def openByte : UInt8 := 40

@[inherit_doc openByte]
def closeByte : UInt8 := 41

@[inherit_doc openByte]
def singleByte : UInt8 := 39

@[inherit_doc openByte]
def doubleByte : UInt8 := 34

/-- The place behind the first `((`, and the bytes from there on.  The bytes given begin at the place
`i`. -/
def openingPlace? (i : Nat) : List UInt8 → Option (Nat × List UInt8)
  | [] => none
  | b :: bs =>
    if b = openByte ∧ bs.head? = some openByte then some (i + 2, bs.tail)
    else openingPlace? (i + 1) bs

/-- The place of the `))` that ends the token.  `quote` is the quote that is open and `depth` the
number of open inner parentheses in front of the bytes given, which begin at the place `i`. -/
def closingPlace? (quote : Option UInt8) (depth i : Nat) : List UInt8 → Option Nat
  | [] => none
  | b :: bs =>
    match quote with
    | some q => closingPlace? (if b = q then none else some q) depth (i + 1) bs
    | none =>
      if b = singleByte ∨ b = doubleByte then closingPlace? (some b) depth (i + 1) bs
      else if b = openByte then closingPlace? none (depth + 1) (i + 1) bs
      else if b = closeByte ∧ 0 < depth then closingPlace? none (depth - 1) (i + 1) bs
      else if b = closeByte ∧ bs.head? = some closeByte then some i
      else closingPlace? none depth (i + 1) bs

/-- The places in front of which and behind which the body of the first token stands. -/
def places? (text : String) : Option (Nat × Nat) := do
  let (start, rest) ← openingPlace? 0 text.toUTF8.data.toList
  let stop ← closingPlace? none 0 start rest
  return (start, stop)

/-- The body of the first token of a text, cut out of its bytes. -/
def cutBody? (text : String) : Option String := do
  let (start, stop) ← places? text
  let raw ← Text.cut? text start stop
  return Text.trimmed raw

end Token

end PageScript
